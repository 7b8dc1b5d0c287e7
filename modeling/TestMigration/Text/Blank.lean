/-!
# Blanks and lines

Source text arrives with every kind of white space Unicode knows, and generated comments must never
let one of its line ends through. So both classes are given once, by code point, and everything that
trims, splits or counts lines goes through them. The functions work on lists of characters, where
they can be reasoned about; the versions on strings only convert.
-/

namespace TestMigration.Text

/-- White space: the characters that separate words and that trimming removes. -/
def isBlank (c : Char) : Bool :=
  let n := c.toNat
  (9 ≤ n && n ≤ 13) || (28 ≤ n && n ≤ 32) || n == 0x85 || n == 0xA0 || n == 0x1680 ||
    (0x2000 ≤ n && n ≤ 0x200A) || n == 0x2028 || n == 0x2029 || n == 0x202F || n == 0x205F ||
    n == 0x3000

/-- The characters that end a line: line feed, vertical tab, form feed, carriage return, the three
information separators above the unit separator, next line, line and paragraph separator. -/
def isLineEnd (c : Char) : Bool :=
  let n := c.toNat
  (10 ≤ n && n ≤ 13) || (28 ≤ n && n ≤ 30) || n == 0x85 || n == 0x2028 || n == 0x2029

/-! ### Trimming -/

/-- The characters without those at the front that satisfy `p`. -/
def trimLeftChars (p : Char → Bool) (cs : List Char) : List Char := cs.dropWhile p

def trimRightChars (p : Char → Bool) (cs : List Char) : List Char :=
  (cs.reverse.dropWhile p).reverse

def trimChars (p : Char → Bool) (cs : List Char) : List Char :=
  trimRightChars p (trimLeftChars p cs)

def trim (s : String) : String := .ofList (trimChars isBlank s.toList)

def trimRight (p : Char → Bool) (s : String) : String := .ofList (trimRightChars p s.toList)

def trimLeft (p : Char → Bool) (s : String) : String := .ofList (trimLeftChars p s.toList)

/-! ### Words and lines -/

/-- Cuts at maximal runs of characters that satisfy `p`; only the first and the last piece may be
empty. -/
def splitRuns (p : Char → Bool) : List Char → List (List Char) :=
  go [] false
where
  /-- `word` holds the current piece backwards; `inRun` says that the last character was cut out. -/
  go (word : List Char) (inRun : Bool) : List Char → List (List Char)
    | [] => [word.reverse]
    | c :: rest =>
      if p c then
        if inRun then go word true rest else word.reverse :: go [] true rest
      else go (c :: word) false rest

/-- The words of a text: what stands between its blanks. -/
def words (s : String) : List String :=
  ((splitRuns isBlank s.toList).filter (!·.isEmpty)).map .ofList

/-- The lines of a text without their ends. A carriage return before a line feed belongs to it, and
a line end at the very end of the text opens no further line. -/
def linesOf : List Char → List (List Char) :=
  go []
where
  /-- `line` holds the current line backwards. -/
  go (line : List Char) : List Char → List (List Char)
    | [] => if line.isEmpty then [] else [line.reverse]
    | '\r' :: '\n' :: rest => line.reverse :: go [] rest
    | c :: rest => if isLineEnd c then line.reverse :: go [] rest else go (c :: line) rest

def lines (s : String) : List String := (linesOf s.toList).map .ofList

/-- Every line end as a line feed, which also replaces a carriage return, alone or before a line
feed. -/
def unixLines : List Char → List Char
  | '\r' :: '\n' :: rest => '\n' :: unixLines rest
  | '\r' :: rest => '\n' :: unixLines rest
  | c :: rest => c :: unixLines rest
  | [] => []

end TestMigration.Text
