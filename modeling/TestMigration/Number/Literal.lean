import TestMigration.Number.Shortest
import TestMigration.Text.Blank
import TestMigration.Text.Letter
import TestMigration.Text.Quoted
/-!
# Reading numerals

Integer literals in the four bases of the source language, decimal and hexadecimal fractions, and
integers in settings. A reader gives nothing for a text that is no numeral of its kind.

A number may be written with the digits of any script. Each script has its ten digits in a row, so
the zeros tell everything. Before a number is read its digits are replaced by the usual ones, and
the blanks around it do not count.
-/

namespace TestMigration.Text

def decimalZeros : List Nat :=
  [48, 1632, 1776, 1984, 2406, 2534, 2662, 2790, 2918, 3046, 3174, 3302, 3430, 3558, 3664, 3792,
   3872, 4160, 4240, 6112, 6160, 6470, 6608, 6784, 6800, 6992, 7088, 7232, 7248, 42528, 43216,
   43264, 43472, 43504, 43600, 44016, 65296, 66720, 68912, 69734, 69872, 69942, 70096, 70384,
   70736, 70864, 71248, 71360, 71472, 71904, 72016, 72784, 73040, 73120, 92768, 92864, 93008,
   120782, 120792, 120802, 120812, 120822, 123200, 123632, 125264, 130032]

def decimalDigit? (c : Char) : Option Nat :=
  (decimalZeros.find? fun z => z ≤ c.toNat && c.toNat < z + 10).map (c.toNat - ·)

def plainDigit (c : Char) : Char :=
  match decimalDigit? c with
  | some d => Char.ofNat (48 + d)
  | none => c

/-- A number as it is read: with the usual digits, and without the blanks around it. -/
def plainNumeral (cs : List Char) : List Char := (trimChars isBlank cs).map plainDigit

/-- Whether every underscore of a number stands between two digits. -/
def underscoresFit : Option Char → List Char → Bool
  | _, [] => true
  | before, c :: rest =>
    (c != '_' || (before.any Char.isDigit && rest.head?.any Char.isDigit))
      && underscoresFit (some c) rest

end TestMigration.Text

namespace TestMigration.Number

open Text

/-! ### Integers -/

/-- Digits without underscores and the mark of a long integer. -/
def bareDigits (text : List Char) : List Char :=
  trimRightChars (fun c => c == 'l' || c == 'L') (text.filter (· != '_'))

def natIn? (base : Nat) (digits : List Char) : Option Nat :=
  if digits.isEmpty then none else ofDigits? base digits

def signedIn? (base : Nat) : List Char → Option Int
  | '-' :: digits => (natIn? base digits).map fun n => -Int.ofNat n
  | '+' :: digits => (natIn? base digits).map Int.ofNat
  | digits => (natIn? base digits).map Int.ofNat

/-- The letter after a zero that announces the digits of a base. -/
def baseMark? : Nat → Option Char
  | 2 => some 'b'
  | 8 => some 'o'
  | 16 => some 'x'
  | _ => none

/-- Digits without the mark of their base. -/
def dropBaseMark (base : Nat) : List Char → List Char
  | '0' :: c :: digits => if baseMark? base == some c.toLower then digits else '0' :: c :: digits
  | digits => digits

def markedIn? (base : Nat) : List Char → Option Int
  | '-' :: digits => (natIn? base (dropBaseMark base digits)).map fun n => -Int.ofNat n
  | '+' :: digits => (natIn? base (dropBaseMark base digits)).map Int.ofNat
  | digits => (natIn? base (dropBaseMark base digits)).map Int.ofNat

def maxDecimalDigits : Nat := 4300

/-- A decimal integer, perhaps with a sign, that is not too long. -/
def decimal? (text : List Char) : Option Int :=
  if (text.filter Char.isDigit).length > maxDecimalDigits then none else signedIn? 10 text

/-- The value of an integer literal: hexadecimal after `0x`, binary after `0b`, octal after a
further zero, else decimal; underscores and a final `l` do not count. The digits may have blanks
around them, a sign, and the mark of their base again. -/
def integer? (text : List Char) : Option Int :=
  match bareDigits text with
  | '0' :: 'x' :: digits | '0' :: 'X' :: digits => markedIn? 16 (plainNumeral digits)
  | '0' :: 'b' :: digits | '0' :: 'B' :: digits => markedIn? 2 (plainNumeral digits)
  | '0' :: d :: digits => markedIn? 8 (plainNumeral (d :: digits))
  | digits => decimal? (plainNumeral digits)

/-- A decimal integer with blanks around it, a sign, and underscores between digits. -/
def integerText? (text : String) : Option Int :=
  let digits := plainNumeral text.toList
  if underscoresFit none digits then decimal? (digits.filter (· != '_')) else none

/-! ### Fractions -/

/-- An exponent part: a sign, if any, and digits. -/
def exponent? : List Char → Option Int := signedIn? 10

/-- A text cut at the first character that satisfies `p`, which is dropped. -/
def cutAtChar (p : Char → Bool) (cs : List Char) : List Char × Option (List Char) :=
  match cs.dropWhile (!p ·) with
  | [] => (cs, none)
  | _ :: rest => (cs.takeWhile (!p ·), some rest)

/-- The double nearest to `mantissa * 10 ^ exponent`; infinite beyond the largest. -/
def ofDecimal (mantissa : Nat) (exponent : Int) : Float :=
  -- beyond these bounds the result no longer depends on the digits
  let size := Int.ofNat (Nat.toDigits 10 mantissa).length + exponent
  if mantissa == 0 || size < -400 then Float.ofBits 0
  else if size > 400 then Float.ofBits 0x7FF0000000000000
  else
    match exponent with
    | .ofNat e => Float.ofScientific mantissa false e
    | .negSucc e => Float.ofScientific mantissa true (e + 1)

/-- A decimal fraction: digits with at most one point, perhaps an exponent. -/
def unsignedFraction? (text : List Char) : Option Float := do
  let (body, exponentPart) := cutAtChar (fun c => c == 'e' || c == 'E') text
  let exponent ← match exponentPart with
    | some digits => exponent? digits
    | none => some 0
  let (whole, fractionPart) := cutAtChar (· == '.') body
  let fraction := fractionPart.getD []
  let mantissa ← natIn? 10 (whole ++ fraction)
  return ofDecimal mantissa (exponent - Int.ofNat fraction.length)

/-- A signed decimal fraction, or the name of an infinite or undefined double. -/
def fraction? (text : String) : Option Float :=
  let (negative, body) := match text.toList with
    | '-' :: rest => (true, rest)
    | '+' :: rest => (false, rest)
    | cs => (false, cs)
  let value? :=
    match String.ofList (body.map Char.toLower) with
    | "inf" | "infinity" => some (Float.ofBits 0x7FF0000000000000)
    | "nan" => some (Float.ofBits 0x7FF8000000000000)
    | _ => unsignedFraction? body
  value?.map fun x => if negative then -x else x

/-- A number of any form, with blanks around it and underscores inside. -/
def realText? (text : String) : Option Float :=
  let digits := plainNumeral text.toList
  if underscoresFit none digits then fraction? (.ofList (digits.filter (· != '_'))) else none

inductive HexReading where
  | value (x : Float)
  | tooLarge
  | malformed
  deriving Repr

/-- A hexadecimal fraction: `0x`, digits with at most one point, perhaps a power of two. -/
def hexFraction (text : List Char) : HexReading :=
  let parsed : Option (Nat × Int) := do
    let body ← match text with
      | '0' :: 'x' :: rest | '0' :: 'X' :: rest => some rest
      | _ => none
    let (digits, powerPart) := cutAtChar (fun c => c == 'p' || c == 'P') body
    let power ← match powerPart with
      | some digits => exponent? digits
      | none => some 0
    let (whole, fractionPart) := cutAtChar (· == '.') digits
    let fraction := fractionPart.getD []
    let mantissa ← natIn? 16 (whole ++ fraction)
    return (mantissa, power - 4 * Int.ofNat fraction.length)
  match parsed with
  | none => .malformed
  | some (mantissa, power) =>
    -- a power this small leaves nothing of the mantissa
    if mantissa != 0 && Int.ofNat mantissa.log2 + power < -1200 then .value (Float.ofBits 0)
    else if mantissa != 0 && Int.ofNat mantissa.log2 + power > 1100 then .tooLarge
    else
      match ofScaled? mantissa power with
      | some x => .value x
      | none => .tooLarge

end TestMigration.Number
