import TestMigration.Document.Reader
import TestMigration.Halt
/-!
# Written documents

The files that people write hold documents in a notation that is wider than JSON: comments, single
quotes or none, and commas at the end are allowed, and a text without quotes is what it looks like,
a number, a truth value or just a text. A number with an exponent, for instance, is one only if it
has a point and the exponent a sign. In other respects the notation is stricter: between the parts
of a document only blanks and line ends may stand, and a name and its colon share a line. A document
is read into a tree of what is written, and from there into values.
-/

namespace TestMigration.Document

open Text

inductive Written where
  | plain (s : String)
  | quoted (s : String)
  | list (items : List Written)
  | record (fields : List (String × Written))
  deriving Repr

/-! ### Characters -/

def endsLine (c : Char) : Bool :=
  c == '\n' || c == '\r' || c == '\x85' || c == '\u2028' || c == '\u2029'

def endsWord (c : Char) : Bool := c == ' ' || c == '\t' || endsLine c

def isWritable (c : Char) : Bool :=
  let n := c.toNat
  n == 0x09 || n == 0x0A || n == 0x0D || (0x20 ≤ n && n ≤ 0x7E) || n == 0x85
    || (0xA0 ≤ n && n ≤ 0xFFFD) || 0x10000 ≤ n

/-- What follows blanks, line ends and comments. -/
def skipGap (inComment : Bool) : List Char → List Char
  | [] => []
  | c :: rest =>
    if endsLine c then skipGap false rest
    else if inComment then skipGap true rest
    else if c == ' ' then skipGap false rest
    else if c == '#' then skipGap true rest
    else c :: rest

/-! ### Texts -/

/-- The blanks and line ends that have just been read in a text. -/
inductive Gap where
  /-- Blanks on one line, held backwards. -/
  | blanks (cs : List Char)
  /-- Line ends: what stands for the first in any case, what stands for it if it is alone, and the
  others, held backwards. -/
  | lines (always alone more : List Char)

def Gap.none : Gap := .blanks []

/-- What a gap means, held backwards: blanks at the ends of lines do not count, and a single line
end is a blank. -/
def Gap.text : Gap → List Char
  | .blanks cs => cs
  | .lines always alone more => (if more.isEmpty then alone else more) ++ always

def Gap.isNone : Gap → Bool
  | .blanks cs => cs.isEmpty
  | .lines .. => false

/-- A line end as it counts: two kinds stand for themselves. -/
def lineEnd (c : Char) : Char := if c == '\u2028' || c == '\u2029' then c else '\n'

def Gap.blank (c : Char) : Gap → Gap
  | .blanks cs => .blanks (c :: cs)
  | gap => gap

def Gap.line (c : Char) : Gap → Gap
  | .blanks _ => if lineEnd c == '\n' then .lines [] [' '] [] else .lines [c] [] []
  | .lines always alone more => .lines always alone (lineEnd c :: more)

def escaped? (c : Char) : Option Char :=
  match c with
  | '0' => some '\x00'
  | 'a' => some '\x07'
  | 'b' => some '\x08'
  | 't' | '\t' => some '\t'
  | 'n' => some '\n'
  | 'v' => some '\x0b'
  | 'f' => some '\x0c'
  | 'r' => some '\r'
  | 'e' => some '\x1b'
  | ' ' | '"' | '\\' | '/' => some c
  | 'N' => some '\x85'
  | '_' => some '\xa0'
  | 'L' => some '\u2028'
  | 'P' => some '\u2029'
  | _ => none

/-- What stands in double quotes, and the rest; `acc` is held backwards. -/
def readDouble (acc : List Char) (gap : Gap) : List Char → Option (String × List Char)
  | [] => none
  | '"' :: rest => some (String.ofList (gap.text ++ acc).reverse, rest)
  | '\\' :: 'u' :: a :: b :: c :: d :: rest => do
    readDouble (charOfPoint (← hex4? a b c d) :: gap.text ++ acc) .none rest
  | '\\' :: 'x' :: a :: b :: rest => do
    readDouble (charOfPoint (← ofDigits? 16 [a, b]) :: gap.text ++ acc) .none rest
  | '\\' :: c :: rest =>
    if endsLine c then readDouble (gap.text ++ acc) (.lines [] [] []) rest
    else do readDouble ((← escaped? c) :: gap.text ++ acc) .none rest
  | c :: rest =>
    if endsLine c then readDouble acc (gap.line c) rest
    else if c == ' ' || c == '\t' then readDouble acc (gap.blank c) rest
    else readDouble (c :: gap.text ++ acc) .none rest

/-- What stands in single quotes, and the rest. A single quote inside is doubled. -/
def readSingle (acc : List Char) (gap : Gap) : List Char → Option (String × List Char)
  | [] => none
  | '\'' :: '\'' :: rest => readSingle ('\'' :: gap.text ++ acc) .none rest
  | c :: rest =>
    if c == '\'' then some (String.ofList (gap.text ++ acc).reverse, rest)
    else if endsLine c then readSingle acc (gap.line c) rest
    else if c == ' ' || c == '\t' then readSingle acc (gap.blank c) rest
    else readSingle (c :: gap.text ++ acc) .none rest

/-- Whether an unquoted text ends before a character that `next` follows. Inside of brackets more
characters end it. -/
def endsPlain (nested : Bool) (c : Char) (next : Option Char) : Bool :=
  let isBracket (c : Char) : Bool := ",[]\x7b\x7d".toList.contains c
  (c == ':' && next.all fun n => endsWord n || (nested && isBracket n))
    || (nested && (isBracket c || c == '?'))

/-- A text without quotes, and what follows its last word. -/
def readPlain (nested : Bool) (acc : List Char) (gap : Gap) : List Char → String × List Char
  | [] => (String.ofList acc.reverse, [])
  | c :: rest =>
    let done := (String.ofList acc.reverse, c :: rest)
    if endsLine c then readPlain nested acc (gap.line c) rest
    else if c == ' ' then readPlain nested acc (gap.blank c) rest
    else if c == '\t' || (c == '#' && !gap.isNone) || endsPlain nested c rest.head? then done
    else readPlain nested (c :: gap.text ++ acc) .none rest

/-- Whether an unquoted text can start with a character that `next` follows. -/
def startsPlain (nested : Bool) (c : Char) (next : Option Char) : Bool :=
  !(endsWord c || "-?:,[]\x7b\x7d#&*!|>'\"%@`".toList.contains c)
    || (next.any (!endsWord ·) && (c == '-' || (!nested && (c == '?' || c == ':'))))

/-! ### Trees -/

/-- How far the colon may be from the start of its name. -/
def maxNameLength : Nat := 1024

/-- Whether the colon at the start of `rest` belongs to the name at the start of `cs`. -/
def sharesLine (cs rest : List Char) : Bool :=
  let name := cs.take (cs.length - rest.length)
  name.length ≤ maxNameLength && !name.any endsLine

def readScalar (nested : Bool) (cs : List Char) : Option (Written × List Char) :=
  match cs with
  | '"' :: rest => (readDouble [] .none rest).map fun (s, rest) => (.quoted s, rest)
  | '\'' :: rest => (readSingle [] .none rest).map fun (s, rest) => (.quoted s, rest)
  | c :: rest =>
    if startsPlain nested c rest.head? then
      let (s, rest) := readPlain nested [] .none cs
      some (.plain s, rest)
    else none
  | [] => none

def readName (cs : List Char) : Option (String × List Char) :=
  match readScalar true cs with
  | some (.plain s, rest) | some (.quoted s, rest) => some (s, rest)
  | _ => none

mutual

def readWritten (nested : Bool) : Nat → List Char → Option (Written × List Char)
  | 0, _ => none
  | fuel + 1, cs =>
    match cs with
    | '[' :: rest => (readWrittenItems fuel rest).map fun (items, rest) => (.list items, rest)
    | '{' :: rest => (readWrittenFields fuel rest).map fun (fields, rest) => (.record fields, rest)
    | cs => readScalar nested cs

def readWrittenItems : Nat → List Char → Option (List Written × List Char)
  | 0, _ => none
  | fuel + 1, cs =>
    match skipGap false cs with
    | ']' :: rest => some ([], rest)
    | cs => do
      let (item, rest) ← readWritten true fuel cs
      match skipGap false rest with
      | ',' :: rest =>
        let (items, rest) ← readWrittenItems fuel rest
        return (item :: items, rest)
      | ']' :: rest => return ([item], rest)
      | _ => none

/-- The fields of a record up to its brace. A name may lack a value. -/
def readWrittenFields : Nat → List Char → Option (List (String × Written) × List Char)
  | 0, _ => none
  | fuel + 1, cs =>
    match skipGap false cs with
    | '}' :: rest => some ([], rest)
    | cs => do
      let (name, rest) ← readName cs
      let (value, rest) ← match skipGap false rest with
        | ':' :: rest =>
          if sharesLine cs (':' :: rest) then
            match skipGap false rest with
            | ',' :: rest => some (.plain "", ',' :: rest)
            | '}' :: rest => some (.plain "", '}' :: rest)
            | rest => readWritten true fuel rest
          else none
        | rest => some (.plain "", rest)
      match skipGap false rest with
      | ',' :: rest =>
        let (fields, rest) ← readWrittenFields fuel rest
        return ((name, value) :: fields, rest)
      | '}' :: rest => return ([(name, value)], rest)
      | _ => none

end

def dropMark : List Char → List Char
  | '\ufeff' :: rest => rest
  | cs => cs

def written? (s : String) : Option Written :=
  let cs := s.toList
  if cs.any (!isWritable ·) then none
  else match skipGap false (dropMark cs) with
    | [] => some (.plain "")
    | cs => do
      let (value, rest) ← readWritten false (2 * cs.length + 2) cs
      if (skipGap false rest).isEmpty then some value else none

/-! ### Values -/

def flagWord? (s : String) : Option Bool :=
  if ["yes", "Yes", "YES", "true", "True", "TRUE", "on", "On", "ON"].contains s then some true
  else if ["no", "No", "NO", "false", "False", "FALSE", "off", "Off", "OFF"].contains s then
    some false
  else none

def nullWords : List String := ["", "~", "null", "Null", "NULL"]

/-- Whether a text is made of underscores and digits that satisfy `p`, and not empty. -/
def isDigitRun (p : Char → Bool) (cs : List Char) : Bool :=
  !cs.isEmpty && cs.all fun c => p c || c == '_'

def cutSign : List Char → Bool × List Char
  | '-' :: rest => (true, rest)
  | '+' :: rest => (false, rest)
  | cs => (false, cs)

/-- The base of digits, and the digits. A zero in front makes them octal. -/
def baseOf? (cs : List Char) : Option (Nat × List Char) :=
  match cs with
  | ['0'] => some (10, cs)
  | '0' :: 'b' :: digits =>
    if isDigitRun (fun c => c == '0' || c == '1') digits then some (2, digits) else none
  | '0' :: 'x' :: digits =>
    if isDigitRun (fun c => c.isDigit || (ofDigits? 16 [c]).isSome) digits then some (16, digits)
    else none
  | '0' :: digits =>
    if isDigitRun (fun c => '0' ≤ c && c ≤ '7') digits then some (8, '0' :: digits) else none
  | c :: _ => if c.isDigit && isDigitRun Char.isDigit cs then some (10, cs) else none
  | [] => none

/-- The integer that a text looks like, if it looks like one. -/
def writtenInteger? (s : String) : Option (Except Halt Int) :=
  let (negative, body) := cutSign s.toList
  (baseOf? body).map fun (base, digits) =>
    let digits := digits.filter (· != '_')
    if base == 10 && Number.maxDecimalDigits < digits.length then .error .numberTooLong
    else match Number.natIn? base digits with
      | some n => .ok (if negative then -Int.ofNat n else Int.ofNat n)
      | none => .error .malformedLiteral

def isSignedExponent (cs : List Char) : Bool :=
  match cs with
  | [] => true
  | e :: sign :: digits =>
    (e == 'e' || e == 'E') && (sign == '+' || sign == '-') && !digits.isEmpty
      && digits.all Char.isDigit
  | _ => false

/-- The fraction that a text looks like: it has a point, and an exponent has a sign. -/
def writtenFraction? (s : String) : Option Float :=
  let (negative, body) := cutSign s.toList
  let signed := body.length < s.length
  let whole := body.takeWhile fun c => c.isDigit || c == '_'
  match body.drop whole.length with
  | '.' :: rest =>
    let fraction := rest.takeWhile fun c => c.isDigit || c == '_'
    let exponent := rest.drop fraction.length
    let fits :=
      if whole.isEmpty then !signed && fraction.head?.any Char.isDigit
      else whole.head?.any Char.isDigit
    if fits && isSignedExponent exponent then
      Number.fraction? (.ofList (s.toList.filter (· != '_')))
    else if whole.isEmpty && ["inf", "Inf", "INF"].contains (String.ofList rest) then
      Number.fraction? (if negative then "-inf" else "inf")
    else if whole.isEmpty && !signed && ["nan", "NaN", "NAN"].contains (String.ofList rest) then
      Number.fraction? "nan"
    else none
  | _ => none

/-- The value that a text without quotes looks like. -/
def plainValue (s : String) : Except Halt Document :=
  if nullWords.contains s then .ok null
  else match flagWord? s, writtenFraction? s, writtenInteger? s with
    | some b, _, _ => .ok (flag b)
    | none, some x, _ => .ok (real x)
    | none, none, some n => n.map int
    | none, none, none => .ok (text s)

mutual

def Written.document : Written → Except Halt Document
  | .plain s => plainValue s
  | .quoted s => .ok (Document.text s)
  | .list items => return Document.list (← itemDocuments items)
  | .record fields => return Document.record (Table.ofPairs (← fieldDocuments fields))

def Written.itemDocuments : List Written → Except Halt (List Document)
  | [] => .ok []
  | item :: rest => return (← item.document) :: (← itemDocuments rest)

def Written.fieldDocuments : List (String × Written) → Except Halt (List (String × Document))
  | [] => .ok []
  | (name, value) :: rest => return (name, ← value.document) :: (← fieldDocuments rest)

end

end TestMigration.Document
