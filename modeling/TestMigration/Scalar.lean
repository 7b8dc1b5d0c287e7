import TestMigration.Number.Literal
import TestMigration.Document.Writer
/-!
# Literal values

The value of a literal, in a source or in an extracted action, together with the kind it is written
as. The kind decides how a literal is rendered; kind and value agree in everything read from a
source, but actions may also be built by hand.
-/

namespace TestMigration

inductive Scalar where
  | text (s : String)
  | int (n : Int)
  | real (x : Float)
  | flag (b : Bool)
  | absent
  deriving DecidableEq, Repr

inductive LiteralKind where
  | string
  | number
  | boolean
  | null
  | char
  | other (name : String)
  deriving DecidableEq, Repr

def LiteralKind.word : LiteralKind → String
  | .string => "string"
  | .number => "number"
  | .boolean => "boolean"
  | .null => "null"
  | .char => "char"
  | .other name => name

def LiteralKind.ofWord : String → LiteralKind
  | "string" => .string
  | "number" => .number
  | "boolean" => .boolean
  | "null" => .null
  | "char" => .char
  | name => .other name

namespace Scalar

/-- A number without a needless fraction: a double equal to an integer is written as
that integer. -/
def realNumber (x : Float) : String :=
  match Number.exactInt? x with
  | some n => toString n
  | none => Number.decimalText x

def plain : Scalar → String
  | text s => s
  | int n => toString n
  | real x => Number.decimalText x
  | flag b => if b then "True" else "False"
  | absent => "None"

/-- A value as a number of the target language; a truth value is one or zero. -/
def number : Scalar → String
  | flag b => if b then "1" else "0"
  | real x => realNumber x
  | value => value.plain

def unwritable : Nat := Number.tenTo Number.maxDecimalDigits

/-- Whether a value can be written: an integer must not have too many digits. -/
def isWritable : Scalar → Bool
  | int n => n.natAbs < unwritable
  | _ => true

/-- Whether a value counts as true: not empty, not zero, not absent. -/
def isTrue : Scalar → Bool
  | text s => !s.isEmpty
  | int n => n != 0
  | real x => !(x == 0.0)
  | flag b => b
  | absent => false

def document : Scalar → Document
  | text s => .text s
  | int n => .int n
  | real x => .real x
  | flag b => .flag b
  | absent => .null

def negate? : Scalar → Option Scalar
  | int n => some (int (-n))
  | real x => some (real (-x))
  | _ => none

end Scalar

end TestMigration
