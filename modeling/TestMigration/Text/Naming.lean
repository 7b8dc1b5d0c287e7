import TestMigration.Text.Blank
import TestMigration.Text.Search
import TestMigration.Text.Letter
/-!
# Names in the target language

Every target profile has a way of writing identifiers, file names and the names of tests. Names come
from the sources in camel case, in capitals or in any mixture; constants, which are written in
capitals, keep their spelling in every style, and a name that is a keyword of the target gets an
underscore at its end.
-/

namespace TestMigration.Text

/-- A way of writing compound names. -/
inductive NameStyle where
  | camel
  | snake
  | pascal
  deriving DecidableEq, Repr

def NameStyle.word : NameStyle → String
  | .camel => "camel"
  | .snake => "snake"
  | .pascal => "pascal"

def NameStyle.ofWord? : String → Option NameStyle
  | "camel" => some .camel
  | "snake" => some .snake
  | "pascal" => some .pascal
  | _ => none

/-! ### Words inside a name -/

/-- Whether a new word starts at `c`, after `before` and with `after` behind it: a capital after a
small letter or a digit, or the last capital of a run before a small letter. -/
def startsWord (before : Option Char) (c : Char) (after : Option Char) : Bool :=
  c.isUpper && match before with
    | none => false
    | some b => b.isLower || b.isDigit || (b.isUpper && after.any Char.isLower)

/-- The words of a name, cut where a new word starts. -/
def humps : List Char → List (List Char) :=
  go none []
where
  /-- `before` is the last character read, and `word` holds the current word backwards. -/
  go (before : Option Char) (word : List Char) : List Char → List (List Char)
    | [] => if word.isEmpty then [] else [word.reverse]
    | c :: rest =>
      if startsWord before c rest.head? then word.reverse :: go (some c) [c] rest
      else go (some c) (c :: word) rest

/-- Snake case: the words in small letters with underscores between them, where two in a row become
one. Blanks and hyphens separate words as well. -/
def snakeCase (name : String) : String :=
  let parts := splitRuns (fun c => isBlank c || c == '-') (trimChars isBlank name.toList)
  let words := (parts.flatMap humps).map fun w => lower (.ofList w)
  replace "__" "_" (join "_" words)

def capitalize : List Char → List Char
  | [] => []
  | c :: rest => upperChar c ++ rest

/-- Pascal case: the parts between slashes, hyphens, underscores and dots, each with a capital. -/
def pascalCase (name : String) : String :=
  let parts := splitRuns (fun c => c == '/' || c == '-' || c == '_' || c == '.')
    (trimChars (· == '/') name.toList)
  .ofList (parts.flatMap capitalize)

/-- Camel case: Pascal case with a small first letter. -/
def camelCase (name : String) : String :=
  match (pascalCase name).toList with
  | [] => ""
  | c :: rest => .ofList (lowerChar c ++ rest)

/-- Whether a name is written in capitals throughout, with at least one letter. -/
def isConstantName (name : String) : Bool :=
  name.toList.any isLetter && name == upper name

/-! ### A profile's conventions -/

/-- How a target writes names. -/
structure Naming where
  identifiers : NameStyle
  modules : NameStyle
  testStart : String
  keywords : List String
  deriving DecidableEq, Repr

def Naming.ident (n : Naming) (name : String) : String :=
  let written :=
    if isConstantName name then name
    else match n.identifiers with
      | .snake => snakeCase name
      | _ => name
  if n.keywords.contains written then written ++ "_" else written

def Naming.moduleName (n : Naming) (simpleName : String) : String :=
  match n.modules with
  | .snake => snakeCase simpleName
  | .camel => camelCase simpleName
  | .pascal => simpleName

def Naming.testName (n : Naming) (name : String) : String :=
  let ident := n.ident name
  if n.testStart.isEmpty || startsWith n.testStart ident then ident else n.testStart ++ ident

end TestMigration.Text
