import TestMigration.CommandLine.Arguments
import TestMigration.Conversion.Report
import TestMigration.Files.Output
import TestMigration.Profile.Registry
import TestMigration.Settings
/-!
# Running a command

A command is a function of its arguments, the environment and the files it finds. It ends with an
exit code, what it prints, what it logs, and the files afterwards. Reading and writing the files
themselves is left to the program around it.
-/

namespace TestMigration.Files

open Text

/-- The sources below a directory with their unit names and texts, in the order of the names; none
where a path leads nowhere. Some directories are passed over. -/
def discover (t : FileTree) (cwd root : String) : List (String × String) :=
  match t.locate cwd root with
  | .error _ => []
  | .ok location =>
    sortBy (fun a b => textLe a.1 b.1) ((t.filesBelow location).filterMap fun (way, bytes) =>
      if way.dropLast.any Syntax.skipsDirectory || !Syntax.isSourceFile (way.getLastD "") then none
      else some (join "/" way, decode bytes))

/-- Reads the source at a path. The unit has the path below the root of the project. -/
def readSourceFile (parser : Syntax.Parser) (t : FileTree) (cwd path root : String) :
    Except Syntax.Problem Syntax.Tree :=
  let unitName := Syntax.unitNameOf path root
  if !Syntax.isSourceFile path then .error (.halted (.unsupportedFile path))
  else match t.read cwd path with
    | .ok bytes => Syntax.readText parser (decode bytes) unitName
    | .error .nullCharacter => .error (.halted (.file .nullCharacter))
    | .error problem =>
      let why := problem.words ++ ": " ++ shown path
      .error (.rejected { unitName, position := { line := 1 }, fault := .unreadable why })

end TestMigration.Files

namespace TestMigration.CommandLine

open Text Files

structure World where
  cwd : String
  env : Table String String := []
  files : FileTree := {}
  /-- What the report says about the time it took. -/
  elapsed : Float := 0.0

structure Finish where
  exitCode : Nat
  output : String := ""
  log : List LogLine := []
  files : FileTree

/-- The exit code for wrong arguments and a wrong configuration. -/
def misuseCode : Nat := 3

/-- The exit code for a run without a result. -/
def failureCode : Nat := 2

def printed (lines : List String) : String := join "" (lines.map (· ++ "\n"))

def padTo (width : Nat) (s : String) : String := s ++ times (width - s.length) " "

def profileLine (p : Profile) : String :=
  padTo 20 p.name ++ " " ++ p.displayName ++ " (language: " ++ p.language ++ ", delegate strategy: "
    ++ p.delegateStrategy.word ++ ")"

def logged (level : LogLevel) (lines : List LogLine) : List LogLine :=
  lines.filter fun l => level.rank ≤ l.level.rank

def reportText (r : Report) (elapsed : Float) : String :=
  match r.document with
  | .record fields => (Document.record (fields ++ [("elapsed_seconds", .real elapsed)])).indented 0
  | d => d.indented 0

def summaryLines (o : ConvertOptions) (cwd : String) (r : Report) (exitCode : Nat) : List String :=
  ["", "  Status: " ++ r.status.word,
   "  Converted: " ++ toString r.converted.length ++ "  Failed: " ++ toString r.failed.length]
    ++ (sortBy (fun a b => textLe a.1 b.1) r.failed).map (fun (name, reason) =>
      "    " ++ name ++ ": " ++ reason)
    ++ (if o.dryRun then r.units.map fun u => "  would write " ++ u.path
      else if !r.units.isEmpty && exitCode != failureCode then
        ["  Output: " ++ Path.absolute cwd o.out, ""]
      else [])

def writeReport (w : World) (o : ConvertOptions) (r : Report) (t : FileTree) :
    Except Halt FileTree :=
  match o.report.filter (!·.isEmpty) with
  | none => .ok t
  | some path => (t.writeAt w.cwd path (encode (reportText r w.elapsed))).mapError .file

def finishRun (w : World) (o : ConvertOptions) (log : List LogLine) (r : Report) :
    Except Halt Finish := do
  let log := log ++ r.diagnostics.map Diagnostic.logLine
  let (exitCode, log, t) :=
    if r.units.isEmpty || o.dryRun then (r.status.exitCode, log, w.files)
    else match writeUnits w.files (locationOf w.cwd o.out)
        (r.units.map fun u => (u.path, u.text)) with
      | (.ok _, t) => (r.status.exitCode, log, t)
      | (.error problem, t) =>
        (failureCode, log ++ [{ level := .error
                                message := "Writing output failed, nothing was written: "
                                  ++ problem.message }], t)
  let files ← writeReport w o r t
  return { exitCode := if r.status = .failure then failureCode else exitCode
           output := printed (summaryLines o w.cwd r exitCode), log, files }

def failWith (w : World) (exitCode : Nat) (log : List LogLine) (message : String) : Finish :=
  { exitCode, log := log ++ [{ level := .error, message }], files := w.files }

/-- The profile of the arguments, or else that of the settings. -/
def ConvertOptions.profileOr (o : ConvertOptions) (s : Settings) : String :=
  (o.profile.filter (!·.isEmpty)).getD s.profile

def runConvert (w : World) (s : Settings) (o : ConvertOptions) : Except Halt Finish := do
  if !w.files.leadsToFolder w.cwd o.source then
    return failWith w misuseCode [] ("Source directory not found: " ++ o.source)
  if o.workers.any (· < 1) then return failWith w misuseCode [] "--workers must be at least 1"
  match ← Profile.load w.files w.cwd (o.profileOr s) with
  | .error problem => return failWith w misuseCode [] problem.message
  | .ok p =>
    let log : List LogLine :=
      [{ level := .info
         message :=
          "Converting " ++ o.source ++ " -> " ++ o.out ++ " with profile '" ++ p.name ++ "'" }]
    match discover w.files w.cwd o.source with
    | [] => return failWith w failureCode log ("No Java sources found under " ++ o.source)
    | sources =>
      finishRun w o log (← Conversion.convert .builtin sources p (o.strategy.or s.strategy))

def runCommand (w : World) (s : Settings) : Command → Except Halt Finish
  | .profiles _ =>
    .ok { exitCode := 0, output := printed (Profile.builtins.map profileLine), files := w.files }
  | .convert o => do
    let finish ← runConvert w s o
    return { finish with log := logged (o.logLevel.getD s.logLevel) finish.log }

/-- The text of the file of variables; none if there is no file. -/
def Invocation.variablesText (w : World) (i : Invocation) : Except Halt String :=
  match i.envFile.bind fun path => (w.files.read w.cwd path).toOption with
  | none => .ok ""
  | some bytes =>
    match decode? bytes with
    | some text => .ok text
    | none => .error .undecodable

def Invocation.settings (w : World) (i : Invocation) :
    Except Halt (Except ProfileProblem Settings) := do
  return Settings.ofEnvironment w.env (← i.variablesText w)

def run (w : World) (args : List String) : Except Halt (Except Ending Finish) :=
  match readInvocation args with
  | .error ending => .ok (.error ending)
  | .ok i => do
    match ← i.settings w with
    | .error problem => return .ok (failWith w misuseCode [] problem.message)
    | .ok s => return .ok (← runCommand w s i.command)

end TestMigration.CommandLine
