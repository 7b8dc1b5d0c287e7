import TestMigration.Document.Basic
import TestMigration.Number.Shortest
import TestMigration.Text.Quoted
/-!
# Writing documents

Documents are written as JSON in the printing characters of ASCII: every other character becomes one
escape, or two for the halves of a surrogate pair. The compact form has everything on one line; the
indented one gives each item and each field a line of its own.
-/

namespace TestMigration.Document

open Text

def unitEscape (n : Nat) : List Char :=
  let digits := Nat.toDigits 16 n
  '\\' :: 'u' :: (List.replicate (4 - digits.length) '0' ++ digits)

def textChar (c : Char) : List Char :=
  match c with
  | '"' => ['\\', '"']
  | '\\' => ['\\', '\\']
  | '\n' => ['\\', 'n']
  | '\r' => ['\\', 'r']
  | '\t' => ['\\', 't']
  | '\x08' => ['\\', 'b']
  | '\x0c' => ['\\', 'f']
  | c =>
    let n := pointOf c
    if 0x20 ≤ n ∧ n < 0x7f then [c]
    else if n < 0x10000 then unitEscape n
    else
      let m := n - 0x10000
      unitEscape (0xD800 + m / 0x400) ++ unitEscape (0xDC00 + m % 0x400)

def quoted (s : String) : String := .ofList ('"' :: s.toList.flatMap textChar ++ ['"'])

/-- The text of a number; the infinite and undefined ones have names. -/
def realText (x : Float) : String :=
  match Number.Reading.ofFloat x with
  | .undefined => "NaN"
  | .infinite negative => if negative then "-Infinity" else "Infinity"
  | .finite .. => Number.decimalText x

mutual

def compact : Document → String
  | null => "null"
  | flag b => if b then "true" else "false"
  | int n => toString n
  | real x => realText x
  | text s => quoted s
  | list items => "[" ++ join ", " (compactItems items) ++ "]"
  | record fields => "\x7b" ++ join ", " (compactFields fields) ++ "\x7d"

def compactItems : List Document → List String
  | [] => []
  | item :: rest => compact item :: compactItems rest

def compactFields : List (String × Document) → List String
  | [] => []
  | (name, value) :: rest => (quoted name ++ ": " ++ compact value) :: compactFields rest

end

mutual

/-- A document over several lines, which starts on a line indented by `level`. -/
def indented (level : Nat) : Document → String
  | list [] => "[]"
  | list (item :: rest) =>
    "[\n" ++ join ",\n" (indentedItems (level + 1) (item :: rest)) ++ "\n" ++ times level "  "
      ++ "]"
  | record [] => "\x7b\x7d"
  | record (field :: rest) =>
    "\x7b\n" ++ join ",\n" (indentedFields (level + 1) (field :: rest)) ++ "\n" ++ times level "  "
      ++ "\x7d"
  | null => "null"
  | flag b => if b then "true" else "false"
  | int n => toString n
  | real x => realText x
  | text s => quoted s

def indentedItems (level : Nat) : List Document → List String
  | [] => []
  | item :: rest => (times level "  " ++ indented level item) :: indentedItems level rest

def indentedFields (level : Nat) : List (String × Document) → List String
  | [] => []
  | (name, value) :: rest =>
    (times level "  " ++ quoted name ++ ": " ++ indented level value) :: indentedFields level rest

end

end TestMigration.Document
