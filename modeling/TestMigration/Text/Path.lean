import TestMigration.Text.Search
import TestMigration.Text.Blank
/-!
# Paths

Slash-separated paths as plain texts: directory, last component, extension, joining, normal form and
the way from one path to another. Nothing here looks at a file system; the one place where a
starting directory matters, a relative path made absolute, takes it as an argument.
-/

namespace TestMigration.Text.Path

/-- The components between the slashes, empty ones included. -/
def split (path : String) : List String := splitOn "/" path

def isAbsolute (path : String) : Bool := startsWith "/" path

/-- The path up to its last slash, without slashes at the end unless it has nothing else. -/
def directory (path : String) : String :=
  let head := (path.toList.reverse.dropWhile (· != '/')).reverse
  if head.all (· == '/') then .ofList head else .ofList (trimRightChars (· == '/') head)

def baseName (path : String) : String := afterLast '/' path

/-- Two paths one after the other; an absolute second path stands alone. -/
def append (dir path : String) : String :=
  if isAbsolute path then path
  else if dir.isEmpty || endsWith "/" dir then dir ++ path
  else dir ++ "/" ++ path

/-- A path cut before the last dot of its last component; dots at its start open no extension. -/
def splitExtension (path : String) : String × String :=
  let base := (baseName path).toList
  let name := base.dropWhile (· == '.')
  if name.contains '.' then
    let ext := '.' :: (name.reverse.takeWhile (· != '.')).reverse
    (.ofList (path.toList.take (path.length - ext.length)), .ofList ext)
  else (path, "")

def stem (path : String) : String := (splitExtension path).1

/-! ### Normal form -/

/-- Components resolved from the left: empty ones and single dots are skipped, and two dots remove
the component before them, or stay without one, except at the root. The result is held backwards. -/
def resolve (absolute : Bool) : List String → List String → List String
  | done, [] => done
  | done, comp :: rest =>
    if comp == "" || comp == "." then resolve absolute done rest
    else if comp != ".." then resolve absolute (comp :: done) rest
    else
      match done with
      | [] => if absolute then resolve absolute [] rest else resolve absolute [comp] rest
      | last :: before =>
        if last == ".." then resolve absolute (comp :: done) rest else resolve absolute before rest

/-- How many slashes a normal form starts with: two are kept as two, more count as one. -/
def leadingSlashes (path : String) : Nat :=
  let n := (path.toList.takeWhile (· == '/')).length
  if n == 0 then 0 else if n == 2 then 2 else 1

/-- The normal form of a path: no empty component, no single dot, and two dots at the start only. -/
def normalize (path : String) : String :=
  let n := leadingSlashes path
  let comps := (resolve (n != 0) [] (split path)).reverse
  let text := String.ofList (List.replicate n '/') ++ join "/" comps
  if text.isEmpty then "." else text

def absolute (cwd path : String) : String := normalize (append cwd path)

def absoluteComponents (cwd path : String) : List String :=
  (split (absolute cwd path)).filter (· != "")

def commonLength : List String → List String → Nat
  | a :: as, b :: bs => if a == b then commonLength as bs + 1 else 0
  | _, _ => 0

/-- The way from the directory `start` to `path`: up as often as needed, then down. -/
def relative (cwd path start : String) : String :=
  let target := absoluteComponents cwd path
  let source := absoluteComponents cwd start
  let common := commonLength source target
  let comps := List.replicate (source.length - common) ".." ++ target.drop common
  if comps.isEmpty then "." else join "/" comps

/-- The components that lead somewhere: neither empty nor a single dot. -/
def steps (path : String) : List String := (split path).filter fun c => c != "" && c != "."

/-- A path without the components that lead nowhere. -/
def tidy (path : String) : String :=
  let text := String.ofList (List.replicate (leadingSlashes path) '/') ++ join "/" (steps path)
  if text.isEmpty then "." else text

/-- The name of a file cut before its ending: what follows a dot that is neither at its start nor at
its end. -/
def splitEnding (path : String) : String × String :=
  let name := (steps path).getLast?.getD ""
  let before := beforeLast '.' name
  if before.isEmpty || endsWith "." name then (name, "") else (before, "." ++ afterLast '.' name)

/-- The name of a file without directories and without its ending. -/
def simpleStem (path : String) : String := (splitEnding path).1

end TestMigration.Text.Path
