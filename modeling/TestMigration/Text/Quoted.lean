import TestMigration.Text.Search
/-!
# Quoted texts

`quote` writes a text between two quotes of the target language, with a backslash before what could
end it early; `unescape?` reads the escapes of a source literal. They are not inverse in general
(the source language knows octal and Unicode escapes, and a quote may be any text), but of texts
quoted with a single or a double quote the second reads back what the first has written.

An escape can name half of a surrogate pair. A text holds such a half as one of the last characters
of the last plane, which are nobody's. So a half is an item of a text like any other, and two of
them do not become one character; only what writes a text out has to know about them. A text with
halves has no bytes.
-/

namespace TestMigration.Text

/-! ### Halves of surrogate pairs -/

/-- Whether a code point is half of a surrogate pair. -/
def isHalf (n : Nat) : Bool := 0xD800 ≤ n && n < 0xE000

/-- How far from its code point a half is held. -/
def halfShift : Nat := 0x102000

def charOfPoint (n : Nat) : Char :=
  if isHalf n then Char.ofNat (n + halfShift) else if n.isValidChar then Char.ofNat n else '�'

def pointOf (c : Char) : Nat :=
  if isHalf (c.toNat - halfShift) then c.toNat - halfShift else c.toNat

/-- Where the first halves of a text stand in a row: the positions of the first and the last, and
the first itself. -/
def halves? (s : String) : Option (Nat × Nat × Nat) :=
  let cs := s.toList
  let start := (cs.takeWhile fun c => !isHalf (pointOf c)).length
  let run := (cs.drop start).takeWhile fun c => isHalf (pointOf c)
  run.head?.map fun c => (start, start + run.length - 1, pointOf c)

/-- Why a text has no bytes, if it has none. -/
def encodingFault? (s : String) : Option String :=
  (halves? s).map fun (first, last, point) =>
    "'utf-8' codec can't encode character" ++
      (if first == last then
        " '\\u" ++ .ofList (Nat.toDigits 16 point) ++ "' in position " ++ toString first
      else "s in position " ++ toString first ++ "-" ++ toString last)
      ++ ": surrogates not allowed"

/-! ### Quotes -/

/-- A text between two quotes. First the backslash is escaped, then the quote, last line feed,
carriage return and tab. -/
def quote (text mark : String) : String :=
  let escaped := replaceChars mark.toList ('\\' :: mark.toList)
    (replaceChars ['\\'] ['\\', '\\'] text.toList)
  let flat := replaceChars ['\t'] ['\\', 't'] (replaceChars ['\r'] ['\\', 'r']
    (replaceChars ['\n'] ['\\', 'n'] escaped))
  mark ++ .ofList flat ++ mark

/-! ### Reading escapes -/

def digitValue? (c : Char) : Option Nat :=
  if c.isDigit then some (c.toNat - 48)
  else if 'a' ≤ c ∧ c ≤ 'f' then some (c.toNat - 87)
  else if 'A' ≤ c ∧ c ≤ 'F' then some (c.toNat - 55)
  else none

def digitIn? (base : Nat) (c : Char) : Option Nat :=
  (digitValue? c).filter (· < base)

def ofDigits? (base : Nat) : List Char → Option Nat :=
  go 0
where
  /-- `n` is the value of the digits read so far. -/
  go (n : Nat) : List Char → Option Nat
    | [] => some n
    | c :: rest =>
      match digitIn? base c with
      | some d => go (n * base + d) rest
      | none => none

/-- What a backslash and one further character stand for. -/
def simpleEscape (c : Char) : Char :=
  match c with
  | 'n' => '\n'
  | 't' => '\t'
  | 'r' => '\r'
  | 'b' => '\x08'
  | 'f' => '\x0c'
  | 's' => ' '
  | c => c

/-- How much of an escape has been read. -/
inductive EscapeState where
  | plain
  | backslash
  /-- In an octal escape: its value so far and how many digits it has. -/
  | octal (value digits : Nat)
  /-- After `\u`: how many hexadecimal digits have been read and their value. -/
  | unicode (value digits : Nat)
  deriving DecidableEq, Repr

/-- The text with its escapes replaced: one to three octal digits, `u` any number of times and four
hexadecimal digits, the usual single letters, and any other character for itself. A backslash at the
very end stays. Fails at a Unicode escape without its four digits. -/
def unescapeFrom : EscapeState → List Char → Option (List Char)
  | .plain, [] => some []
  | .backslash, [] => some ['\\']
  | .octal value _, [] => some [charOfPoint value]
  | .unicode _ _, [] => none
  | .plain, c :: rest =>
    if c == '\\' then unescapeFrom .backslash rest else (unescapeFrom .plain rest).map (c :: ·)
  | .backslash, c :: rest =>
    if c == 'u' then unescapeFrom (.unicode 0 0) rest
    else
      match digitIn? 8 c with
      | some d => unescapeFrom (.octal d 1) rest
      | none => (unescapeFrom .plain rest).map (simpleEscape c :: ·)
  | .octal value digits, c :: rest =>
    match if digits < 3 then digitIn? 8 c else none with
    | some d => unescapeFrom (.octal (value * 8 + d) (digits + 1)) rest
    | none =>
      if c == '\\' then (unescapeFrom .backslash rest).map (charOfPoint value :: ·)
      else (unescapeFrom .plain rest).map (charOfPoint value :: c :: ·)
  | .unicode value digits, c :: rest =>
    if c == 'u' && digits == 0 then unescapeFrom (.unicode 0 0) rest
    else
      match digitIn? 16 c with
      | some d =>
        if digits == 3 then
          (unescapeFrom .plain rest).map (charOfPoint (value * 16 + d) :: ·)
        else unescapeFrom (.unicode (value * 16 + d) (digits + 1)) rest
      | none => none

/-- The text that the body of a literal stands for. -/
def unescape? (body : String) : Option String :=
  (unescapeFrom .plain body.toList).map .ofList

end TestMigration.Text
