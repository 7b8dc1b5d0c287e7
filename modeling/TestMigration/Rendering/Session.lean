import TestMigration.Extraction.Vocabulary
import TestMigration.Model.Basic
import TestMigration.Profile.Basic
/-!
# The state of rendering

Rendering a unit writes lines and, beside them, a trace: every fragment that came from a template,
with the lines of the source it stands for. The finished file is checked against the trace. What a
body may refer to is its frame; a spliced body has a frame of its own.

Rendering can stop in three ways. A value without a target form turns the statement it is part of
into a comment, so it is caught there. A refusal ends the unit, and a halt ends the run. Whatever
was written and noted before stays, since the notes of a refused unit are reported too.
-/

namespace TestMigration.Rendering

open TestMigration.Action Text Profile

/-!
### Why a unit is not written

A unit that cannot be written in the target is refused as a whole, with one cause. The other units
of the run are not affected, unless they import it.
-/

/-- Why a method cannot be spliced into its caller. -/
inductive SpliceFault where
  | resultUsed
  | recursive
  | earlyReturn
  deriving DecidableEq, Repr

def SpliceFault.words : SpliceFault → String
  | resultUsed => "its result is used"
  | recursive => "recursive call"
  | earlyReturn => "early return"

inductive Fault where
  | noInteraction (profile op : String)
  | noCondition (profile condition : String)
  | noAssertion (profile kind : String)
  | noCommand (profile command : String)
  | noStrategy (profile strategy : String)
  | noQuery (profile query : String)
  | noPageQuery (profile query : String)
  | notLocated (element : String)
  | unresolved (call : String)
  | callAsValue (call : String)
  | selfCallOutside (method : String)
  | thisOutside
  | noConstruction (typeName : String)
  | noSplice (method : String) (cause : SpliceFault)
  /-- A check of the finished text failed. -/
  | gate (name details : String)
  /-- Units that are imported were not written. -/
  | dependency (units : List String)
  deriving DecidableEq, Repr

def Fault.kind : Fault → String
  | noInteraction .. | noCommand .. | noQuery .. | noPageQuery .. => "unsupported_action"
  | noCondition .. => "unsupported_condition"
  | noAssertion .. => "unsupported_assertion"
  | noStrategy .. | notLocated _ => "unsupported_locator"
  | unresolved _ | callAsValue _ | selfCallOutside _ | thisOutside | noConstruction _
  | noSplice .. =>
    "unsupported_delegate"
  | gate .. => "parity_gate"
  | dependency _ => "failed_dependency"

def Fault.message : Fault → String
  | noInteraction profile op => lacks profile "interaction" op
  | noCondition profile condition => lacks profile "wait condition" condition
  | noAssertion profile kind => lacks profile "assertion" kind
  | noCommand profile name => lacks profile "browser command" name
  | noStrategy profile strategy => lacks profile "locator strategy" strategy
  | noQuery profile query => lacks profile "element query" query
  | noPageQuery profile query => lacks profile "page query" query
  | notLocated element => "element '" ++ element ++ "' is used before it is located"
  | unresolved call => "call '" ++ call ++ "' was not resolved"
  | callAsValue call => "call '" ++ call ++ "' is used as a value and cannot be inlined"
  | selfCallOutside method => "self call '" ++ method ++ "' outside a page object instance"
  | thisOutside => "'this' has no meaning outside a page object"
  | noConstruction typeName => "cannot construct '" ++ typeName ++ "' in the target"
  | noSplice method cause => "cannot inline " ++ method ++ ": " ++ cause.words
  | gate name details => "parity gate '" ++ name ++ "' failed: " ++ details
  | dependency units => "depends on " ++ join ", " units ++ ", which failed to convert"
where
  /-- The words for a missing template. -/
  lacks (profile what name : String) : String :=
    "profile '" ++ profile ++ "' has no " ++ what ++ " '" ++ name ++ "'"

/-- A fault of a unit, and where in the unit, if that is known. -/
structure Refusal where
  fault : Fault
  unitName : String
  position : Option Position := none
  deriving DecidableEq, Repr

def Refusal.diagnostic (r : Refusal) : Diagnostic :=
  { severity := .error, unitName := r.unitName, message := r.fault.message, position := r.position
    code := "emit_" ++ r.fault.kind }

/-! ### Lines of code

Generated code is collected line by line at the current indentation. Whether a block is empty for
the target language is decided by statements, not by lines: a comment is a line and no statement.
The statements are therefore counted apart. -/

structure Code where
  indent : String := "  "
  level : Nat := 0
  lines : List String := []
  statements : Nat := 0
  deriving DecidableEq, Repr

namespace Code

def margin (c : Code) : String := times c.level c.indent

/-- Writes a statement of one or more lines. The empty text is an empty line and no statement; an
empty line inside of a statement is not indented. -/
def line (c : Code) (text : String) : Code :=
  if text.isEmpty then { c with lines := c.lines ++ [""] }
  else
    { c with
      lines := c.lines ++ (splitOn "\n" text).map fun part =>
        if part.isEmpty then "" else c.margin ++ part
      statements := c.statements + 1 }

def comment (c : Code) (text : String) : Code :=
  { c with lines := c.lines ++ (splitOn "\n" text).map (c.margin ++ ·) }

def blank (c : Code) (count : Nat) : Code := { c with lines := c.lines ++ List.replicate count "" }

def append (c other : Code) : Code :=
  { c with lines := c.lines ++ other.lines, statements := c.statements + other.statements }

def deeper (c : Code) : Code := { c with level := c.level + 1 }

def shallower (c : Code) : Code := { c with level := c.level - 1 }

def text (c : Code) : String := join "\n" c.lines

end Code

/-! ### Frames and sessions -/

inductive Mode where
  | test
  /-- In a page object, whose members are reached through the object. -/
  | page
  | function
  | inline
  deriving DecidableEq, Repr

/-- What a body may refer to. -/
structure Frame where
  unit : SourceUnit
  mode : Mode
  page : String
  body : String
  params : List String := []
  /-- What stands for a parameter of a spliced method. -/
  subst : Table String String := []
  elements : Table String String := []
  declared : List String := []
  /-- The variables that get more than one value. -/
  reassigned : List String := []
  /-- The types of the page objects that the setup creates. -/
  contextObjects : Table String String := []
  /-- The methods being spliced, the outermost first. -/
  stack : List MethodKey := []
  /-- The elements that are known to be empty. -/
  cleared : List String := []

inductive TraceKind where
  | wait
  | locator
  | action
  deriving DecidableEq, Repr

def TraceKind.word : TraceKind → String
  | wait => "wait"
  | locator => "locator"
  | action => "action"

/-- A fragment, and what of the source it stands for. -/
structure TraceEntry where
  kind : TraceKind
  provenance : Provenance
  fragment : String
  body : String
  locator : Option Locator := none
  scope : String := ""
  deriving BEq, Repr

/-- What is noted beside the lines. -/
structure Session where
  trace : List TraceEntry := []
  /-- The number of waits that were come across. -/
  waits : Nat := 0
  diagnostics : List Diagnostic := []
  classImports : Table String SourceUnit := []
  moduleImports : Table String SourceUnit := []
  functionImports : Table String (SourceUnit × List String) := []
  /-- The remarks that were made already. -/
  notes : List String := []

def Session.imported (s : Session) : List String :=
  distinctNames (s.classImports.keys ++ s.moduleImports.keys ++ s.functionImports.keys)
where
  distinctNames (names : List String) : List String :=
    names.foldl (fun seen n => insertNew n seen) []

/-- What rendering a unit depends on. -/
structure Env where
  model : Model
  profile : Profile
  strategy : DelegateStrategy
  unit : SourceUnit

structure State where
  session : Session := {}
  frame : Frame
  code : Code := {}

inductive Stop where
  | refused (r : Refusal)
  /-- A value that has no target form, as its text. -/
  | untranslatable (text : String)
  | halted (h : Halt)
  deriving DecidableEq, Repr

/-- Rendering: what was changed before a stop stays changed. -/
abbrev Render := ReaderT Env (ExceptT Stop (StateM State))

def Render.run {α : Type} (x : Render α) (env : Env) (s : State) : Except Stop α × State :=
  StateT.run (ExceptT.run (ReaderT.run x env)) s

/-! ### Looking around -/

def profile : Render Profile := return (← read).profile

def phrases : Render Phrases := return (← read).profile.phrases

def frame : Render Frame := return (← get).frame

def ident (name : String) : Render String := return (← read).profile.naming.ident name

/-- The unit that a type name means, seen from another unit: of several, one in the same package
comes first. -/
def unitForType (m : Model) (typeName : String) (near : SourceUnit) : Option SourceUnit :=
  let simple := afterLast '.' (beforeFirst '<' typeName)
  let candidates := m.units.filter (·.simpleName == simple)
  (candidates.find? (·.package == near.package)).or candidates.head?

def pageObjectFor (typeName : String) (near : SourceUnit) : Render (Option SourceUnit) := do
  return (unitForType (← read).model typeName near).filter (·.kind == .pageObject)

/-- Whether a parameter holds the browser. -/
def isDriverParam (p : Param) : Bool := Extraction.isDriverType (Extraction.baseType p.typeName)

/-- Whether a function gets the page as its first argument without declaring it. -/
def implicitPage (m : Method) : Bool := !m.static && !m.params.any isDriverParam

/-! ### Stopping -/

def refuse {α : Type} (fault : Fault) (position : Option Position := none) : Render α := do
  throw (.refused { fault, unitName := (← read).unit.unitName, position })

/-- Refuses the unit for something that came from a place. -/
def refuseAt {α : Type} (p : Provenance) (fault : Fault) : Render α :=
  refuse fault (some p.position)

def liftHalt {α : Type} : Except Halt α → Render α
  | .ok a => pure a
  | .error h => throw (.halted h)

/-! ### Changing the state -/

def modifySession (f : Session → Session) : Render Unit :=
  modify fun s => { s with session := f s.session }

def modifyFrame (f : Frame → Frame) : Render Unit := modify fun s => { s with frame := f s.frame }

def modifyCode (f : Code → Code) : Render Unit := modify fun s => { s with code := f s.code }

def line (text : String) : Render Unit := modifyCode (·.line text)

def comment (text : String) : Render Unit := modifyCode (·.comment text)

def statements : Render Nat := return (← get).code.statements

def lineCount : Render Nat := return (← get).code.lines.length

/-- Runs a step one level deeper. The level is restored also if the step stops. -/
def indented (x : Render Unit) : Render Unit := do
  modifyCode Code.deeper
  tryCatch x fun stop => do
    modifyCode Code.shallower
    throw stop
  modifyCode Code.shallower

/-- Runs a step in another frame and goes back to the current one, also if the step stops. -/
def inFrame {α : Type} (f : Frame) (x : Render α) : Render α := do
  let outer ← frame
  modifyFrame fun _ => f
  let result ← tryCatch x fun stop => do
    modifyFrame fun _ => outer
    throw stop
  modifyFrame fun _ => outer
  return result

def trace (kind : TraceKind) (provenance : Provenance) (fragment : String)
    (locator : Option Locator := none) (scope : String := "") : Render Unit := do
  let body := (← frame).body
  modifySession fun s =>
    { s with trace := s.trace ++ [{ kind, provenance, fragment, body, locator, scope }] }

/-- Writes a statement that an action stands for. -/
def emitLine (provenance : Provenance) (text : String) : Render Unit := do
  line text
  trace .action provenance text

/-- Makes a remark about the unit, once. -/
def note (key message : String) (position : Option Position := none) : Render Unit := do
  let unitName := (← read).unit.unitName
  modifySession fun s =>
    if s.notes.contains key then s
    else
      { s with
        notes := key :: s.notes
        diagnostics := s.diagnostics ++
          [{ severity := .info, unitName, message, position, code := "emit_note" }] }

def needClass (u : SourceUnit) : Render Unit := do
  if u.unitName != (← read).unit.unitName then
    modifySession fun s => { s with classImports := Table.put u.unitName u s.classImports }

def moduleAlias (p : Profile) (u : SourceUnit) : String :=
  if p.styles.modules = .snake then p.naming.moduleName u.simpleName else u.simpleName

/-- The module of a unit is used; gives its name. -/
def needModule (u : SourceUnit) : Render String := do
  modifySession fun s => { s with moduleImports := Table.put u.unitName u s.moduleImports }
  return moduleAlias (← read).profile u

def needFunction (u : SourceUnit) (function : String) : Render Unit :=
  modifySession fun s =>
    let names := ((Table.get? u.unitName s.functionImports).map (·.2)).getD []
    { s with
      functionImports := Table.put u.unitName (u, insertNew function names) s.functionImports }

end TestMigration.Rendering
