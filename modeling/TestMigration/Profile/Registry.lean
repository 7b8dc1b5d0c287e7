import TestMigration.Document.Flow
import TestMigration.Files.Tree
import TestMigration.Profile.Builtin
import TestMigration.Profile.Reader
/-!
# Finding profiles

A profile is asked for by the name of one that comes with the program, or by the path of a file. A
path is known by its ending, or because there is such a file.

A profile can also be given as changes to another one. What results is written down and read like a
file, so that a number is taken for one only if a file could hold it.
-/

namespace TestMigration

open Text

namespace ProfileProblem

def message : ProfileProblem → String
  | unknown name =>
    "unknown target profile '" ++ name ++ "' (known: "
      ++ join ", " (Profile.builtins.map Profile.name) ++ ")"
  | noFile path => "profile file not found: " ++ path
  | notStructured path => "profile " ++ path ++ " is not valid YAML"
  | notRecord path => "profile " ++ path ++ " must be a mapping"
  | invalid path _ => "profile " ++ path ++ " does not validate"
  | badSettings _ => "Invalid TESTLOOM_* settings"

def errors : ProfileProblem → List Document.FieldError
  | invalid _ errors | badSettings errors => errors
  | _ => []

end ProfileProblem

namespace Profile

def ofText (path text : String) : Except Halt (Except ProfileProblem Profile) :=
  match Document.written? text with
  | some w => do ofDocument path (← w.document)
  | none => .ok (.error (.notStructured path))

def ofBytes (path : String) (bytes : List UInt8) : Except Halt (Except ProfileProblem Profile) :=
  match Files.decode? bytes with
  | some text => ofText path text
  | none => .error .undecodable

def ofName (name : String) : Except ProfileProblem Profile :=
  match named? name with
  | some p => .ok p
  | none => .error (.unknown name)

def looksLikeFile (name : String) : Bool :=
  [".yaml", ".yml"].contains (Path.splitEnding name).2

/-- The profile asked for by name or path. A name that no file can have ends the search. -/
def load (files : Files.FileTree) (cwd name : String) :
    Except Halt (Except ProfileProblem Profile) :=
  match files.read cwd (Path.tidy name) with
  | .ok bytes => ofBytes (Path.tidy name) bytes
  | .error .nameTooLong => .error (.file .nameTooLong)
  | .error _ => .ok (if looksLikeFile name then .error (.noFile name) else ofName name)

def summary (p : Profile) : Document :=
  .record
    [("name", .text p.name), ("display_name", .text p.displayName), ("language", .text p.language),
     ("version", .text p.version), ("delegate_strategy", .text p.delegateStrategy.word)]

/-- A known profile with changes, or only the changes. -/
def patched (path : String) (base : Option String) (patch : Document) :
    Except Halt (Except ProfileProblem Profile) :=
  let changed (d : Document) := ofText path (Document.patch d patch).compact
  match base with
  | none => changed (.record [])
  | some name =>
    match ofName name with
    | .ok p => changed p.document
    | .error problem => .ok (.error problem)

end Profile

end TestMigration
