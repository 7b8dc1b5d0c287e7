import TestMigration.Text.Blank
/-!
# Tokens

The lexemes of a source text with the places where they begin and end. Blanks are no tokens, but
comments are, because in a few places the reader takes a comment for an item of its own.

A string is not one token. Between its quotes stand runs of characters, escapes and, in braces after
a backslash, whole expressions, which may contain strings again. So the scan keeps a list of what it
is inside of.

A place counts characters, since a node's text is a slice of the source; its column counts the bytes
of the line before it, and only a line feed ends a line.
-/

namespace TestMigration.Syntax

open Text

/-! ### Places -/

/-- A place between two characters of a source text. -/
structure Mark where
  /-- How many characters stand before it. -/
  offset : Nat := 0
  line : Nat := 1
  /-- One more than the number of bytes that stand before it in its line. -/
  column : Nat := 1
  deriving DecidableEq, Repr, Inhabited

def Mark.after (m : Mark) (c : Char) : Mark :=
  if c == '\n' then { offset := m.offset + 1, line := m.line + 1, column := 1 }
  else { m with offset := m.offset + 1, column := m.column + c.utf8Size }

/-- The stretch between two places. -/
structure Extent where
  start : Mark
  stop : Mark
  deriving DecidableEq, Repr, Inhabited

inductive TokenKind where
  | word
  | integer
  | fraction
  | hexFraction
  | char
  | symbol
  | comment
  /-- The quote at either end of a string. -/
  | quote
  | blockQuote
  /-- Characters of a string that stand for themselves. -/
  | fragment
  | escape
  /-- What opens an expression inside a string. -/
  | interpolation
  deriving DecidableEq, Repr

structure Token where
  kind : TokenKind
  text : String
  extent : Extent
  /-- Not in the text, but put in to make it fit. -/
  missing : Bool := false
  deriving DecidableEq, Repr

/-! ### Lexemes

Each function below measures how many characters of a text belong to the lexeme it starts with. -/

def isWordStart (c : Char) : Bool :=
  c.isAlpha || c == '_' || c == '$' || (c.toNat ≥ 0x80 && !isBlank c && c.toNat != 0xFEFF)

def isWordPart (c : Char) : Bool := isWordStart c || c.isDigit

def literalLength (mark : Char) : Bool → List Char → Nat
  | _, [] => 0
  | true, _ :: rest => literalLength mark false rest + 1
  | false, c :: rest => if c == mark then 1 else literalLength mark (c == '\\') rest + 1

/-- The characters of a string up to its end or a backslash. In a text block a quote stands for
itself unless two more follow. -/
def fragmentLength (block : Bool) : List Char → Nat
  | [] => 0
  | '\\' :: _ => 0
  | '"' :: rest =>
    if block && !(['"', '"'].isPrefixOf rest) then fragmentLength block rest + 1 else 0
  | _ :: rest => fragmentLength block rest + 1

def blockCommentLength : List Char → Nat
  | [] => 0
  | '*' :: '/' :: _ => 2
  | _ :: rest => blockCommentLength rest + 1

def isDigitOf (hex : Bool) (c : Char) : Bool :=
  c == '_' || c.isDigit || (hex && (('a' ≤ c && c ≤ 'f') || ('A' ≤ c && c ≤ 'F')))

/-- The exponent part of a fraction, which needs a digit to be one. -/
def exponentLength (isMark : Char → Bool) : List Char → Nat
  | m :: rest =>
    if !isMark m then 0
    else
      let (signs, digits) := match rest with
        | '+' :: digits | '-' :: digits => (1, digits)
        | digits => (0, digits)
      let n := (digits.takeWhile (isDigitOf false)).length
      if n == 0 then 0 else 1 + signs + n
  | [] => 0

/-- The one-letter mark of a floating or a long number. -/
def isSuffix (c : Char) : Bool := "fFdDlL".toList.contains c

/-- The exponent of a hexadecimal number after its digits. It has a mark of its own; but an `e` at
the end of the digits, with a sign and a digit behind it, is an exponent as well, without a
value. -/
def hexExponentLength (digits rest : List Char) : Nat :=
  let body := digits.dropLast
  let endsInMark := digits.getLast?.any fun c => c == 'e' || c == 'E'
  if endsInMark && rest.head?.any (fun c => c == '+' || c == '-')
      && body.any (fun c => c != '_' && isDigitOf true c) && body.getLast? != some '_' then
    exponentLength (fun _ => true) ('e' :: rest) - 1
  else exponentLength (fun c => c == 'p' || c == 'P') rest

/-- The numeral at the start of a text: its kind and length. The exponent of a decimal number
without a point may also have the hexadecimal mark; such a number has no value. -/
def numeral (cs : List Char) : TokenKind × Nat :=
  let hex := ["0x".toList, "0X".toList].any (·.isPrefixOf cs)
  let start := if hex || ["0b".toList, "0B".toList, "0o".toList, "0O".toList].any (·.isPrefixOf cs)
    then 2 else 0
  let whole := start + ((cs.drop start).takeWhile (isDigitOf hex)).length
  let afterWhole := cs.drop whole
  let part := match afterWhole with
    | '.' :: rest => 1 + (rest.takeWhile (isDigitOf hex)).length
    | _ => 0
  let isMark c := (part == 0 && (c == 'p' || c == 'P')) || c == 'e' || c == 'E'
  let rest := afterWhole.drop part
  let exponent :=
    if hex then hexExponentLength ((cs.take (whole + part)).drop start) rest
    else exponentLength isMark rest
  let body := whole + part + exponent
  let suffix := match cs.drop body with
    | c :: _ => if isSuffix c then some c else none
    | [] => none
  let floating := suffix.any fun c => c != 'l' && c != 'L'
  let length := body + (if suffix.isSome then 1 else 0)
  if part + exponent == 0 && (hex || !floating) then (.integer, length)
  else (if hex then .hexFraction else .fraction, length)

/-- The symbols of several characters, the longer ones first. A greater-than sign is always a token
by itself, since it may close a list of type arguments. -/
def longSymbols : List (List Char) :=
  ["...", "<<=", "->", "::", "++", "--", "&&", "||", "==", "!=", "<=", "+=", "-=", "*=", "/=", "%=",
    "&=", "|=", "^=", "<<"].map String.toList

/-- The lexeme at the start of a text outside of strings, if it is no blank, and its length. -/
def lexeme : List Char → Option TokenKind × Nat
  | [] => (none, 0)
  | '/' :: '/' :: rest => (some .comment, 2 + (rest.takeWhile (· != '\n')).length)
  | '/' :: '*' :: rest => (some .comment, 2 + blockCommentLength rest)
  | '"' :: '"' :: '"' :: _ => (some .blockQuote, 3)
  | '"' :: _ => (some .quote, 1)
  | '\'' :: rest => (some .char, 1 + literalLength '\'' false rest)
  | c :: rest =>
    if isBlank c || c.toNat == 0xFEFF then (none, 1)
    else if c.isDigit || (c == '.' && (rest.head?.any Char.isDigit)) then
      let (kind, n) := numeral (c :: rest)
      (some kind, n)
    else if isWordStart c then (some .word, 1 + (rest.takeWhile isWordPart).length)
    else
      match longSymbols.find? (·.isPrefixOf (c :: rest)) with
      | some s => (some .symbol, s.length)
      | none => (some .symbol, 1)

def stringPiece (block : Bool) : List Char → TokenKind × Nat
  | '\\' :: '\x7b' :: _ => (.interpolation, 2)
  | '\\' :: _ => (.escape, 2)
  | '"' :: rest =>
    if !block then (.quote, 1)
    else if ['"', '"'].isPrefixOf rest then (.blockQuote, 3)
    else (.fragment, fragmentLength block ('"' :: rest))
  | cs => (.fragment, fragmentLength block cs)

inductive Enclosure where
  | string (block : Bool)
  | expression (braces : Nat)
  deriving DecidableEq, Repr

def enclosuresAfter (kind : TokenKind) (text : List Char) : List Enclosure → List Enclosure
  | .string block :: rest =>
    match kind with
    | .quote | .blockQuote => rest
    | .interpolation => .expression 0 :: .string block :: rest
    | _ => .string block :: rest
  | enclosures =>
    match kind, enclosures with
    | .quote, _ => .string false :: enclosures
    | .blockQuote, _ => .string true :: enclosures
    | .symbol, .expression n :: rest =>
      if text == ['\x7b'] then .expression (n + 1) :: rest
      else if text != ['\x7d'] then .expression n :: rest
      else if n == 0 then rest
      else .expression (n - 1) :: rest
    | _, _ => enclosures

/-- The tokens of a text that starts at a place, inside of some strings and expressions. A lexeme
takes at least one character, so the rest is shorter. -/
def tokensFrom (m : Mark) (enclosures : List Enclosure) : List Char → List Token
  | [] => []
  | c :: rest =>
    let (kind, n) := match enclosures with
      | .string block :: _ =>
        let (kind, n) := stringPiece block (c :: rest)
        (some kind, n)
      | _ => lexeme (c :: rest)
    let body := c :: rest.take (n - 1)
    let stop := body.foldl Mark.after m
    let rest' := rest.drop (n - 1)
    match kind with
    | none => tokensFrom stop enclosures rest'
    | some kind =>
      { kind, text := .ofList body, extent := ⟨m, stop⟩ }
        :: tokensFrom stop (enclosuresAfter kind body enclosures) rest'
termination_by cs => cs.length
decreasing_by all_goals (simp only [List.length_cons, List.length_drop]; omega)

def tokensOf (text : List Char) : List Token := tokensFrom {} [] text

end TestMigration.Syntax
