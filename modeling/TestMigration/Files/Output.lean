import TestMigration.Files.Tree
/-!
# Writing the output

All files of a run are written first into a folder of their own beside the output directory. Only if
that succeeds are they brought to the output directory: as a whole if there is none yet, and
otherwise one file after the other. Whatever happens, the folder is removed in the end.
-/

namespace TestMigration.Files

open Text

inductive WriteProblem where
  | escapes (path : String)
  | duplicates (paths : List String)
  | failed (f : FileFailure)
  deriving DecidableEq, Repr

def WriteProblem.message : WriteProblem → String
  | escapes path => "output path escapes the output directory: " ++ path
  | duplicates paths => "several units map to the same output path: " ++ shownList paths
  | failed f => f.message

/-- The normal form of a path that stays in the output directory. -/
def checkPath (path : String) : Except WriteProblem String :=
  let normal := Path.normalize path
  if Path.isAbsolute normal || normal == ".." || startsWith "../" normal then .error (.escapes path)
  else .ok normal

def wayOf (path : String) : List String := Path.steps path

/-- The paths that occur more than once, in order. -/
def repeated (paths : List String) : List String :=
  distinct (sortTexts (paths.filter fun p => paths.count p > 1))

/-! ### Staging -/

def stageStart : String := ".testloom_stage_"

/-- The names that such a folder may have, one for each number. -/
def stageCandidate (n : Nat) : String :=
  stageStart ++ String.ofList (List.replicate (8 + n) 'a')

/-- The name of the folder beside the output directory in which files are staged: neither there
already, nor that of the output directory or of a file. -/
def stageName (t : FileTree) (out : List String) (files : List (List String × String)) : String :=
  let taken (name : String) : Bool :=
    (t.get? (out.dropLast ++ [name])).isSome || out.getLast? == some name
      || files.any fun f => f.1.head? == some name
  let count := t.entries.length + files.length + 1
  (((List.range (count + 1)).map stageCandidate).find? (!taken ·)).getD (stageCandidate count)

/-- Writes files below a folder, by their ways and texts. What was written before a failure
stays. -/
def stageFiles (stage : List String) (t : FileTree) :
    List (List String × String) → Except FileFailure Unit × FileTree
  | [] => (.ok (), t)
  | (way, text) :: rest =>
    match t.makeFolders [] (stage ++ way.dropLast) with
    | (.error f, t) => (.error f, t)
    | (.ok (), t) =>
      match t.write (stage ++ way) (encode text) with
      | .error f => (.error f, t)
      | .ok t =>
        match encodingFault? text with
        | some reason => (.error { problem := .unencodable reason, location := stage ++ way }, t)
        | none => stageFiles stage t rest

/-! ### Delivery -/

/-- Moves files from one folder to another. What was moved before a failure stays. -/
def moveFiles (stage out : List String) (t : FileTree) :
    List (List String) → Except FileFailure Unit × FileTree
  | [] => (.ok (), t)
  | way :: rest =>
    match t.makeFolders [] (out ++ way.dropLast) with
    | (.error f, t) => (.error f, t)
    | (.ok (), t) =>
      match t.moveFile (stage ++ way) (out ++ way) with
      | .error f => (.error f, t)
      | .ok t => moveFiles stage out t rest

def install (stage out : List String) (t : FileTree) (ways : List (List String)) :
    Except FileFailure Unit × FileTree :=
  match t.get? out, locationProblem? out with
  | some _, _ => moveFiles stage out t ways
  | none, some problem => (.error { problem, location := out }, t)
  | none, none => (.ok (), t.moveFolder stage out)

/-- Stages files in a folder made for them, and brings them to the output directory. -/
def stageAndInstall (stage out : List String) (t : FileTree) (files : List (List String × String)) :
    Except FileFailure Unit × FileTree :=
  match stageFiles stage t files with
  | (.error f, t) => (.error f, t)
  | (.ok (), t) => install stage out t (files.map Prod.fst)

/-- Writes files below a directory by way of a folder beside it, which is removed. -/
def deliver (t : FileTree) (out : List String) (files : List (List String × String)) :
    Except FileFailure Unit × FileTree :=
  match t.makeFolders [] out.dropLast with
  | (.error f, t) => (.error f, t)
  | (.ok (), t) =>
    let stage := out.dropLast ++ [stageName t out files]
    match locationProblem? stage with
    | some problem => (.error { problem, location := stage }, t)
    | none =>
      let (result, t) := stageAndInstall stage out (t.put stage .folder) files
      (result, t.remove stage)

/-- Writes units, given by paths and texts, below a directory; gives the normal forms of the paths
and the tree. -/
def writeUnits (t : FileTree) (out : List String) (units : List (String × String)) :
    Except WriteProblem (List String) × FileTree :=
  match units.mapM fun u => checkPath u.1 with
  | .error problem => (.error problem, t)
  | .ok paths =>
    match repeated paths with
    | [] =>
      match deliver t out ((paths.map wayOf).zip (units.map Prod.snd)) with
      | (.ok (), t) => (.ok paths, t)
      | (.error f, t) => (.error (.failed f), t)
    | paths => (.error (.duplicates paths), t)

end TestMigration.Files
