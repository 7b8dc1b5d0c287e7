import TestMigration.Scalar
import TestMigration.Diagnostic
/-!
# Values

What a test computes with, free of the language it was written in: literals, variables, questions to
the page and to its elements, operators, scripts and calls of other methods of the project. A value
that could not be understood is carried along as its text.
-/

namespace TestMigration

/-- Where something came from: a unit and a range of its lines. -/
structure Provenance where
  unitName : String
  startLine : Nat
  endLine : Nat
  deriving DecidableEq, Repr, Inhabited

/-- The place a diagnostic about something is put at. -/
def Provenance.position (p : Provenance) : Position := { line := p.startLine }

namespace Action

/-- What introduced an element: a statement, a field, or a parameter. -/
inductive Origin where
  | local
  | field
  | param
  deriving DecidableEq, Repr, Inhabited

def Origin.word : Origin → String
  | .local => "local"
  | .field => "field"
  | .param => "param"

structure ElementRef where
  id : String
  name : String := ""
  origin : Origin := .local
  deriving DecidableEq, Repr, Inhabited

inductive CallStyle where
  | onVariable
  | static
  | self
  deriving DecidableEq, Repr, Inhabited

def CallStyle.word : CallStyle → String
  | .onVariable => "instance"
  | .static => "static"
  | .self => "self"

/-- A literal: its value and what it is written as. -/
structure Literal where
  value : Scalar
  kind : LiteralKind := .string
  deriving DecidableEq, Repr

mutual

inductive Value where
  | literal (l : Literal)
  | variable (name : String)
  | driver
  | element (ref : ElementRef)
  /-- A question to an element; asking for an attribute names it. -/
  | elementQuery (ref : ElementRef) (query : String) (arg : Option Value)
  | pageQuery (query : String)
  | not (operand : Value)
  | binary (op : String) (left right : Value)
  | contains (haystack needle : Value)
  | call (call : Call)
  | script (code : String) (args : List Value)
  | construct (typeName : String) (args : List Value)
  /-- A value that is known by its text alone. -/
  | verbatim (text : String)

inductive Call where
  | mk (id targetType method : String) (args : List Value) (style : CallStyle)
    (receiver sourceText : String)

end

instance : Inhabited Value := ⟨.driver⟩

instance : Inhabited Call := ⟨.mk "" "" "" [] .self "" ""⟩

deriving instance BEq, Repr for Value, Call

namespace Call

/-- What tells a call from all others of its unit. -/
def id : Call → String
  | mk id _ _ _ _ _ _ => id

def targetType : Call → String
  | mk _ targetType _ _ _ _ _ => targetType

def method : Call → String
  | mk _ _ method _ _ _ _ => method

def args : Call → List Value
  | mk _ _ _ args _ _ _ => args

def style : Call → CallStyle
  | mk _ _ _ _ style _ _ => style

def receiver : Call → String
  | mk _ _ _ _ _ receiver _ => receiver

def sourceText : Call → String
  | mk _ _ _ _ _ _ sourceText => sourceText

def arity (c : Call) : Nat := c.args.length

def withArgs : Call → List Value → Call
  | mk id targetType method _ style receiver sourceText, args =>
    mk id targetType method args style receiver sourceText

end Call

structure Locator where
  strategy : String
  value : Value

deriving instance BEq, Repr for Locator

end Action

end TestMigration
