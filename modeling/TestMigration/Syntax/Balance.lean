import TestMigration.Diagnostic
import TestMigration.Halt
/-!
# The balance scan

Before a source is read, one pass over its characters decides whether that makes sense at all: every
comment and literal has to end, and the brackets outside of them have to nest. The scan is a machine
that sees one character at a time. Since a comment and a text block take more than one character to
open, the machine has states for "one slash so far" and "one or two quotes so far", and an open
lexeme remembers where it began, because that is the position a complaint about it names.
-/

namespace TestMigration.Syntax

/-!
### Why a source cannot be read

The faults that reject a source unit as a whole. Each has a position, which the message repeats.
-/

inductive Unended where
  | blockComment
  | textBlock
  | stringLiteral
  | charLiteral
  deriving DecidableEq, Repr

def Unended.words : Unended → String
  | .blockComment => "block comment"
  | .textBlock => "text block"
  | .stringLiteral => "string literal"
  | .charLiteral => "char literal"

inductive Fault where
  | unterminated (what : Unended)
  | unbalanced (bracket : Char)
  | unclosed (bracket : Char)
  /-- A file that cannot be opened, with the words of the system. -/
  | unreadable (why : String)
  | noClass
  deriving DecidableEq, Repr

def Fault.reason : Fault → String
  | .unterminated what => "unterminated " ++ what.words
  | .unbalanced bracket => "unbalanced '" ++ bracket.toString ++ "'"
  | .unclosed bracket => "unclosed '" ++ bracket.toString ++ "'"
  | .unreadable why => "cannot read file: " ++ why
  | .noClass => "no class declaration found"

/-- A rejected unit: where and why. -/
structure Rejection where
  unitName : String
  position : Position
  fault : Fault
  deriving DecidableEq, Repr

def Rejection.message (r : Rejection) : String := r.fault.reason ++ " at " ++ r.position.text

def Rejection.diagnostic (r : Rejection) : Diagnostic :=
  { severity := .error, unitName := r.unitName, message := r.message, position := some r.position
    code := "parse_error" }

/-- Why a unit has not been read or understood. -/
inductive Problem where
  | rejected (why : Rejection)
  | halted (why : Halt)
  deriving DecidableEq, Repr

inductive ScanMode where
  /-- Between lexemes. -/
  | code
  /-- After a slash that may open a comment. -/
  | slash
  | lineComment
  /-- In a block comment; `star` says that the last character was a star. -/
  | blockComment (star : Bool)
  | quote
  /-- After two double quotes: an empty string, unless a third one follows. -/
  | quotePair
  /-- In a literal that `mark` ends; `escaped` says that a backslash precedes. -/
  | literal (mark : Char) (escaped : Bool)
  /-- In a text block, after `quotes` double quotes in a row. -/
  | textBlock (quotes : Nat) (escaped : Bool)
  deriving DecidableEq, Repr

structure Scan where
  mode : ScanMode := .code
  /-- The open brackets, the innermost first, and where they stand. -/
  opened : List (Char × Position) := []
  here : Position := { line := 1, column := 1 }
  /-- Where the current lexeme began. -/
  start : Position := { line := 1, column := 1 }
  deriving DecidableEq, Repr

/-- The position after a character: a line feed opens a line, and nothing else does. -/
def nextPosition (p : Position) (c : Char) : Position :=
  if c == '\n' then { line := p.line + 1, column := 1 } else { p with column := p.column + 1 }

def openerOf? : Char → Option Char
  | ')' => some '('
  | ']' => some '['
  | '}' => some '{'
  | _ => none

/-- A character between lexemes: it opens one, or is one by itself. -/
def Scan.codeStep (s : Scan) (c : Char) : Except (Position × Fault) Scan :=
  let s := { s with start := s.here }
  match c with
  | '/' => .ok { s with mode := .slash }
  | '"' => .ok { s with mode := .quote }
  | '\'' => .ok { s with mode := .literal '\'' false }
  | '(' | '[' | '{' => .ok { s with mode := .code, opened := (c, s.here) :: s.opened }
  | c =>
    match openerOf? c with
    | none => .ok { s with mode := .code }
    | some opener =>
      match s.opened with
      | (o, _) :: rest =>
        if o == opener then .ok { s with mode := .code, opened := rest }
        else .error (s.here, .unbalanced c)
      | [] => .error (s.here, .unbalanced c)

def unendedLiteral (mark : Char) : Unended := if mark == '"' then .stringLiteral else .charLiteral

def Scan.literalStep (s : Scan) (mark : Char) (escaped : Bool) (c : Char) :
    Except (Position × Fault) Scan :=
  if escaped then .ok { s with mode := .literal mark false }
  else if c == mark then .ok { s with mode := .code }
  else if c == '\n' then .error (s.start, .unterminated (unendedLiteral mark))
  else .ok { s with mode := .literal mark (c == '\\') }

def Scan.modeStep (s : Scan) (c : Char) : Except (Position × Fault) Scan :=
  match s.mode with
  | .code => s.codeStep c
  | .slash =>
    if c == '/' then .ok { s with mode := .lineComment }
    else if c == '*' then .ok { s with mode := .blockComment false }
    else s.codeStep c
  | .lineComment => .ok { s with mode := if c == '\n' then .code else .lineComment }
  | .blockComment star =>
    .ok { s with mode := if star && c == '/' then .code else .blockComment (c == '*') }
  | .quote =>
    if c == '"' then .ok { s with mode := .quotePair } else s.literalStep '"' false c
  | .quotePair =>
    if c == '"' then .ok { s with mode := .textBlock 0 false } else s.codeStep c
  | .literal mark escaped => s.literalStep mark escaped c
  | .textBlock quotes escaped =>
    if escaped then .ok { s with mode := .textBlock 0 false }
    else if c == '"' then
      .ok { s with mode := if quotes == 2 then .code else .textBlock (quotes + 1) false }
    else .ok { s with mode := .textBlock 0 (c == '\\') }

def Scan.step (s : Scan) (c : Char) : Except (Position × Fault) Scan :=
  (s.modeStep c).map fun t => { t with here := nextPosition s.here c }

/-- What is wrong if the text ends here. -/
def Scan.finish (s : Scan) : Option (Position × Fault) :=
  let unclosed := s.opened.head?.map fun (c, p) => (p, Fault.unclosed c)
  match s.mode with
  | .code | .slash | .lineComment | .quotePair => unclosed
  | .blockComment _ => some (s.start, .unterminated .blockComment)
  | .quote => some (s.start, .unterminated .stringLiteral)
  | .literal mark _ => some (s.start, .unterminated (unendedLiteral mark))
  | .textBlock _ _ => some (s.start, .unterminated .textBlock)

/-- What is wrong with the rest of a text. -/
def Scan.run : Scan → List Char → Option (Position × Fault)
  | s, [] => s.finish
  | s, c :: rest =>
    match s.step c with
    | .ok t => t.run rest
    | .error e => some e

def imbalance? (text : List Char) : Option (Position × Fault) := Scan.run {} text

def checkBalance (text unitName : String) : Except Rejection Unit :=
  match imbalance? text.toList with
  | none => .ok ()
  | some (position, fault) => .error { unitName, position, fault }

end TestMigration.Syntax
