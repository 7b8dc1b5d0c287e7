import TestMigration.CommandLine.Run
/-!
# The program

Everything a command decides is decided by `CommandLine.run`, a function of the arguments, the
environment and the files. What is left here is to find the files that a command can touch, and to
do afterwards what it says: write the files that are new or changed, print, and end with its exit
code.
-/

namespace TestMigration.Program

open Files CommandLine

def usage : String :=
  "usage: testloom [-h] [--env-file ENV_FILE] \x7bconvert,profiles\x7d ...\n\n"
    ++ "testloom - convert Selenium WebDriver Java tests to Playwright\n\n"
    ++ "  convert SRC OUT   Convert a source tree\n"
    ++ "      [--profile PROFILE] [--delegate-strategy \x7bcall,inline\x7d] [--workers WORKERS]\n"
    ++ "      [--dry-run] [--report REPORT] [--log-level \x7bDEBUG,INFO,WARNING,ERROR\x7d]\n"
    ++ "  profiles          List the built-in target profiles\n"

/-- Adds what is at a location, if anything, with all below it if `deep`. -/
partial def look (deep : Bool) (t : FileTree) (location : List String) : IO FileTree := do
  match ← tryCatch (some <$> IO.FS.realPath (locationPath location)) fun _ => pure none with
  | none => return t
  | some place =>
    if ← place.isDir then
      let mut t := t.put location .folder
      if deep then
        for e in ← place.readDir do
          t ← look deep t (location ++ [e.fileName])
      return t
    else
      return t.put location (.file (← IO.FS.readBinFile place).toList)

/-- Adds what is at a path and everything on the way to it. -/
def lookAt (cwd : String) (deep : Bool) (t : FileTree) (path : String) : IO FileTree := do
  let names := Text.Path.split (Text.Path.append cwd path)
  let t ← (List.range names.length).foldlM (fun t n =>
    look false t (locationOf "/" (Text.join "/" (names.take n)))) t
  look deep t (locationOf cwd path)

def environment : IO (Table String String) :=
  Settings.sources.filterMapM fun (_, name) => do
    return (← IO.getEnv name).map fun value => (name, value)

def worldFor (cwd : String) (env : Table String String) (i : Invocation) : IO World := do
  let t ← i.envFile.toList.foldlM (lookAt cwd false) {}
  let w : World := { cwd, env, files := t }
  match i.command with
  | .profiles _ => return w
  | .convert o =>
    let profile := match i.settings w with
      | .ok (.ok s) => [o.profileOr s]
      | _ => []
    let t ← (profile ++ o.report.toList).foldlM (lookAt cwd false) t
    let t ← [o.source, o.out].foldlM (lookAt cwd true) t
    return { w with files := t }

def store (before after : FileTree) : IO Unit :=
  after.entries.forM fun (location, e) =>
    if before.get? location == some e then pure ()
    else match e with
      | .folder => IO.FS.createDirAll (locationPath location)
      | .file bytes => IO.FS.writeBinFile (locationPath location) (ByteArray.mk bytes.toArray)

def perform (w : World) (args : List String) : IO UInt32 := do
  match run w args with
  | .ok (.ok finish) =>
    store w.files finish.files
    for l in finish.log do
      IO.println (l.level.name ++ " - " ++ l.message)
    IO.print finish.output
    return finish.exitCode.toUInt32
  | .ok (.error _) => return misuseCode.toUInt32
  | .error (.file problem) =>
    IO.eprintln problem.words
    return 1
  | .error h =>
    IO.eprintln (toString (repr h))
    return 1

def secondsOf (w : World) (args : List String) : IO Float := do
  let start ← IO.monoMsNow
  let ended := (run w args).isOk
  let stop ← IO.monoMsNow
  return if ended then (stop - start).toFloat / 1000 else 0.0

end TestMigration.Program

open TestMigration CommandLine in
def main (args : List String) : IO UInt32 := do
  match readInvocation args with
  | .error .help =>
    IO.print Program.usage
    return 0
  | .error .misuse =>
    IO.eprint Program.usage
    return misuseCode.toUInt32
  | .ok i =>
    let cwd := toString (← IO.currentDir)
    let w ← Program.worldFor cwd (← Program.environment) i
    Program.perform { w with elapsed := ← Program.secondsOf w args } args
