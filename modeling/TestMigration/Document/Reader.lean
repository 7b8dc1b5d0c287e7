import TestMigration.Document.Basic
import TestMigration.Number.Literal
/-!
# Reading documents

Documents are read from JSON text. The reader descends with a supply of steps computed from the
length of the text: every step either consumes a character or enters a value, so the supply is never
exhausted, and no call shows it to its user.
-/

namespace TestMigration.Document

open Text

def skipBlanks (cs : List Char) : List Char :=
  cs.dropWhile fun c => c == ' ' || c == '\n' || c == '\r' || c == '\t'

def hex4? (a b c d : Char) : Option Nat := ofDigits? 16 [a, b, c, d]

/-- The character for two halves of a surrogate pair. -/
def pairPoint (high low : Nat) : Nat := 0x10000 + (high - 0xD800) * 0x400 + (low - 0xDC00)

/-- A text up to its closing quote, held backwards, and the rest. -/
def readText : List Char → List Char → Option (String × List Char)
  | _, [] => none
  | acc, '"' :: rest => some (String.ofList acc.reverse, rest)
  | acc, '\\' :: 'u' :: a :: b :: c :: d :: '\\' :: 'u' :: a' :: b' :: c' :: d' :: rest =>
    match hex4? a b c d, hex4? a' b' c' d' with
    | some high, some low =>
      if 0xD800 ≤ high ∧ high < 0xDC00 ∧ 0xDC00 ≤ low ∧ low < 0xE000 then
        readText (charOfPoint (pairPoint high low) :: acc) rest
      else readText (charOfPoint high :: acc) ('\\' :: 'u' :: a' :: b' :: c' :: d' :: rest)
    | some point, none =>
      readText (charOfPoint point :: acc) ('\\' :: 'u' :: a' :: b' :: c' :: d' :: rest)
    | none, _ => none
  | acc, '\\' :: 'u' :: a :: b :: c :: d :: rest =>
    match hex4? a b c d with
    | some point => readText (charOfPoint point :: acc) rest
    | none => none
  | acc, '\\' :: c :: rest =>
    if c == '"' || c == '\\' || c == '/' then readText (c :: acc) rest
    else if c == 'b' || c == 'f' || c == 'n' || c == 'r' || c == 't' then
      readText (simpleEscape c :: acc) rest
    else none
  | acc, c :: rest => readText (c :: acc) rest

def isNumberChar (c : Char) : Bool :=
  c.isDigit || c == '-' || c == '+' || c == '.' || c == 'e' || c == 'E'

/-- A number: an integer unless it has a point or an exponent. -/
def readNumber (cs : List Char) : Option (Document × List Char) :=
  let digits := cs.takeWhile isNumberChar
  let rest := cs.dropWhile isNumberChar
  if digits.any fun c => c == '.' || c == 'e' || c == 'E' then
    (Number.fraction? (String.ofList digits)).map fun x => (real x, rest)
  else (Number.signedIn? 10 digits).map fun n => (int n, rest)

def readWord (word : String) (value : Document) (cs : List Char) : Option (Document × List Char) :=
  if word.toList.isPrefixOf cs then some (value, cs.drop word.length) else none

mutual

def readValue : Nat → List Char → Option (Document × List Char)
  | 0, _ => none
  | fuel + 1, cs =>
    match skipBlanks cs with
    | '"' :: rest => (readText [] rest).map fun (s, rest) => (text s, rest)
    | '[' :: rest =>
      match skipBlanks rest with
      | ']' :: rest => some (list [], rest)
      | rest => (readItems fuel rest).map fun (items, rest) => (list items, rest)
    | '{' :: rest =>
      match skipBlanks rest with
      | '}' :: rest => some (record [], rest)
      | rest =>
        (readFields fuel rest).map fun (fields, rest) => (record (Table.ofPairs fields), rest)
    | 't' :: rest => readWord "true" (flag true) ('t' :: rest)
    | 'f' :: rest => readWord "false" (flag false) ('f' :: rest)
    | 'n' :: rest => readWord "null" null ('n' :: rest)
    | rest => readNumber rest

def readItems : Nat → List Char → Option (List Document × List Char)
  | 0, _ => none
  | fuel + 1, cs => do
    let (item, rest) ← readValue fuel cs
    match skipBlanks rest with
    | ',' :: rest =>
      let (items, rest) ← readItems fuel rest
      return (item :: items, rest)
    | ']' :: rest => return ([item], rest)
    | _ => none

def readFields : Nat → List Char → Option (List (String × Document) × List Char)
  | 0, _ => none
  | fuel + 1, cs => do
    match skipBlanks cs with
    | '"' :: rest =>
      let (name, rest) ← readText [] rest
      match skipBlanks rest with
      | ':' :: rest =>
        let (value, rest) ← readValue fuel rest
        match skipBlanks rest with
        | ',' :: rest =>
          let (fields, rest) ← readFields fuel rest
          return ((name, value) :: fields, rest)
        | '}' :: rest => return ([(name, value)], rest)
        | _ => none
      | _ => none
    | _ => none

end

/-- The document of a text; blanks stand for null. -/
def read? (s : String) : Option Document :=
  let cs := s.toList
  if (skipBlanks cs).isEmpty then some null
  else
    match readValue (2 * cs.length + 2) cs with
    | some (value, rest) => if (skipBlanks rest).isEmpty then some value else none
    | none => none

end TestMigration.Document
