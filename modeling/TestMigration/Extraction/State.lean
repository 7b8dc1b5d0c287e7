import TestMigration.Extraction.Scope
import TestMigration.Extraction.Vocabulary
import TestMigration.Model.Basic
import TestMigration.Syntax.Basic
/-!
# The state of an extraction

Extraction goes through the bodies of a class in a fixed order and remembers what the statements
read so far have established: what names denote, how far the counters of elements and calls have
come, and what belongs to the context of the tests. A construct that is not understood is an error
inside its statement only, and what was established before the error stays established, so the state
lies outside of the error.
-/

namespace TestMigration.Extraction

open Syntax TestMigration.Action Text

/-!
### Why something was not understood

Every construct that is kept as text has a cause, and everything else worth telling is a remark.
Both are spelled out here and nowhere else.
-/

inductive Cause where
  | locatorConstant (name : String)
  | locatorAnnotations (text : String)
  | expressionStatement (text : String)
  | statement (reason : String)
  | assignmentTarget (text : String)
  | fieldAssignment (name : String)
  | waitResult (name : String)
  | selectConstructor
  | driverCall (method : String)
  | driverChain (text : String)
  | implicitWait
  | call (text : String)
  | key (name : String)
  | pointerStep (method : String)
  | pointerElement (method : String)
  | dropdown
  | selectedOption
  | untilArguments
  | waitCondition (text : String)
  | waitArgument (method : String)
  | lambdaBody
  | lambda (text : String)
  | assertArguments (method : String) (count : Nat)
  | noScript
  | computedScript
  | noElement
  | notElement (text : String)
  | element (text : String)
  | locatorMethod (name : String)
  | locator (text : String)
  | noExpression
  | unknownName (name : String)
  | beforeLookup (name : String)
  | notValue (name : String)
  | operator (op : String)
  | creation (text : String)
  | expression (text : String)
  deriving DecidableEq, Repr

def Cause.message : Cause → String
  | locatorConstant name => "unsupported How value '" ++ name ++ "'"
  | locatorAnnotations text => "unsupported locator annotation " ++ text
  | expressionStatement text => "unsupported expression statement '" ++ text ++ "'"
  | statement reason => reason
  | assignmentTarget text => "unsupported assignment target '" ++ text ++ "'"
  | fieldAssignment name => "assignment to field '" ++ name ++ "' is not supported"
  | waitResult name => "unsupported wait result binding '" ++ name ++ "'"
  | selectConstructor => "unsupported Select constructor"
  | driverCall method => "unsupported driver call '" ++ method ++ "'"
  | driverChain text => "unsupported driver chain '" ++ text ++ "'"
  | implicitWait => "unsupported implicit wait duration"
  | call text => "unrecognized call '" ++ text ++ "'"
  | key name => "unsupported key 'Keys." ++ name ++ "'"
  | pointerStep method => "unsupported Actions step '" ++ method ++ "'"
  | pointerElement method => "Actions step '" ++ method ++ "' has no element"
  | dropdown => "select operation on an unknown dropdown"
  | selectedOption => "selected option lookup is not supported"
  | untilArguments => "wait.until takes exactly one condition"
  | waitCondition text => "unsupported wait condition '" ++ text ++ "'"
  | waitArgument method => "wait condition '" ++ method ++ "' needs an argument"
  | lambdaBody => "unsupported wait lambda body"
  | lambda text => "unsupported wait lambda '" ++ text ++ "'"
  | assertArguments method count =>
    "unsupported " ++ method ++ " with " ++ toString count ++ " arguments"
  | noScript => "executeScript without a script"
  | computedScript => "executeScript with a non-literal script"
  | noElement => "missing element expression"
  | notElement text => "'" ++ text ++ "' is not an element"
  | element text => "unrecognized element expression '" ++ text ++ "'"
  | locatorMethod name => "unsupported locator 'By." ++ name ++ "'"
  | locator text => "unrecognized locator '" ++ text ++ "'"
  | noExpression => "missing expression"
  | unknownName name => "unknown name '" ++ name ++ "'"
  | beforeLookup name => "element '" ++ name ++ "' used before lookup"
  | notValue name => "'" ++ name ++ "' cannot be used as a value"
  | operator op => "unsupported operator '" ++ op ++ "'"
  | creation text => "unsupported object creation '" ++ text ++ "'"
  | expression text => "unsupported expression '" ++ text ++ "'"

/-- Something worth telling about a unit that was understood. -/
inductive Remark where
  | secondaryClass (name : String)
  | nestedType (name : String)
  | recovered
  | locatorField (name : String) (cause : Cause)
  | annotatedField (name : String) (cause : Cause)
  | runsBeforeEach (method : String)
  | runsAfterEach (method : String)
  | parameters (test : String)
  | severalCatches
  | driverFrom (name text : String)
  deriving DecidableEq, Repr

def Remark.message : Remark → String
  | secondaryClass name => "secondary top-level class '" ++ name ++ "' ignored"
  | nestedType name => "nested type '" ++ name ++ "' ignored"
  | recovered => "syntax error recovered; affected statements kept as opaque text"
  | locatorField name cause => "locator field '" ++ name ++ "' not recognized: " ++ cause.message
  | annotatedField name cause => "field '" ++ name ++ "': " ++ cause.message
  | runsBeforeEach method => "class-level hook '" ++ method ++ "' runs before each test"
  | runsAfterEach method => "class-level hook '" ++ method ++ "' runs after each test"
  | parameters test => "parameterized test '" ++ test ++ "' parameters are not converted"
  | severalCatches => "multiple catch clauses; only the first is used as the fallback"
  | driverFrom name text =>
    "driver '" ++ name ++ "' obtained from '" ++ text ++ "'; using the target page"

def Remark.isInformation : Remark → Bool
  | driverFrom .. => true
  | _ => false

/-! ### Bindings -/

inductive BindingKind where
  | element
  | elements
  | select
  | wait
  | driver
  | actions
  | script
  | pageObject
  | by
  | value
  deriving DecidableEq, Repr

def BindingKind.word : BindingKind → String
  | .element => "element"
  | .elements => "elements"
  | .select => "select"
  | .wait => "wait"
  | .driver => "driver"
  | .actions => "actions"
  | .script => "script"
  | .pageObject => "pageobject"
  | .by => "by"
  | .value => "value"

/-- What a name denotes. An element not yet looked up has no handle. -/
structure Binding where
  kind : BindingKind
  typeName : String := ""
  ref : Option ElementRef := none
  timeout : Option Float := none
  locator : Option Locator := none

def Binding.isElement (b : Binding) : Bool :=
  b.kind == .element || b.kind == .elements || b.kind == .select

/-! ### Reading and changing the state -/

structure Context where
  unitName : String
  framework : String
  imports : List String
  decl : ClassDecl
  /-- The method that is read; empty for the fields of the class. -/
  method : String := ""
  role : Option MethodRole := none

structure State where
  scopes : Scopes Binding := {}
  /-- The lookups that the current statement needs before it. -/
  pending : List Action := []
  /-- How many elements the current body has introduced. -/
  refs : Nat := 0
  /-- How many calls the unit contains so far. -/
  calls : Nat := 0
  constants : Table String Literal := []
  context : TestContext := { driverNames := [] }
  diagnostics : List Diagnostic := []

/-- What ends the conversion of a statement, or of everything. -/
inductive Stop where
  | unrecognized (cause : Cause)
  | halted (why : Halt)

abbrev Extract := ReaderT Context (ExceptT Stop (StateM State))

/-- Gives up on the current construct. -/
def refuse {α : Type} (cause : Cause) : Extract α := throw (.unrecognized cause)

/-- Gives up altogether. -/
def halt {α : Type} (why : Halt) : Extract α := throw (.halted why)

def provenanceOf (span : Span) : Extract Provenance :=
  return { unitName := (← read).unitName, startLine := span.startLine, endLine := span.endLine }

def positionOf (span : Span) : Position := { line := span.startLine, column := span.startColumn }

def report (d : Diagnostic) : Extract Unit :=
  modify fun s => { s with diagnostics := s.diagnostics ++ [d] }

def remark (r : Remark) (span : Span) : Extract Unit := do
  report {
    severity := if r.isInformation then .info else .warning
    unitName := (← read).unitName
    message := r.message
    position := some (positionOf span)
    code := if r.isInformation then "extract_info" else "extract_warning" }

def openScope (scope : Nat) : Extract Nat := do
  let (scopes, i) := (← get).scopes.child scope
  modify fun s => { s with scopes }
  return i

def define (scope : Nat) (name : String) (b : Binding) : Extract Unit :=
  modify fun s => { s with scopes := s.scopes.define scope name b }

/-- Queues actions that have to come before the current statement. -/
def queue (actions : List Action) : Extract Unit :=
  modify fun s => { s with pending := s.pending ++ actions }

def modifyContext (f : TestContext → TestContext) : Extract Unit :=
  modify fun s => { s with context := f s.context }

def addDriver (name : String) : Extract Unit :=
  modifyContext fun c => { c with driverNames := insertNew name c.driverNames }

/-- A new handle for an element, named after its variable if it has one. -/
def newRef (name : String) : Extract ElementRef := do
  modify fun s => { s with refs := s.refs + 1 }
  let number := toString (← get).refs
  let label := if name == "" then "" else ":" ++ name
  return { id := (← read).method ++ label ++ "#" ++ number, name }

/-! ### Questions to the state -/

namespace State

/-- What an expression denotes: a name, or a field of the object. -/
def bindingOf? (s : State) (scope : Nat) (e : Expr) : Option Binding :=
  match e.ownField? with
  | some field => s.scopes.lookupField scope field
  | none => e.name?.bind fun name => s.scopes.lookup scope name

def bindingOfKind? (s : State) (scope : Nat) (kind : BindingKind) (e : Expr) : Option Binding :=
  (s.bindingOf? scope e).filter (·.kind == kind)

def isDriver (s : State) (scope : Nat) (e : Expr) : Bool :=
  let e := e.stripCasts
  match s.bindingOf? scope e with
  | some b => b.kind == .driver
  | none => e.name?.any s.context.driverNames.contains

def isWait (s : State) (scope : Nat) (e : Expr) : Bool :=
  match e.stripCasts with
  | .new typeName _ _ _ => isWaitType (baseType typeName)
  | e => (s.bindingOfKind? scope .wait e).isSome

def runsScripts (s : State) (scope : Nat) (e : Expr) : Bool :=
  match e with
  | .cast typeName _ _ _ => isScriptType (baseType typeName)
  | e => (s.bindingOfKind? scope .script e).isSome

def waitYieldsElement (args : List Expr) : Bool :=
  match args with
  | [arg] =>
    match arg.stripCasts with
    | .call _ method _ _ _ => (waitCondition? method).any fun (_, shape) => shape != .page
    | _ => false
  | _ => false

def isElement (s : State) (scope : Nat) (e : Expr) : Bool :=
  let e := e.stripCasts
  match s.bindingOf? scope e with
  | some b => (b.kind == .element || b.kind == .elements) && b.ref.isSome
  | none =>
    match e with
    | .call target method args _ _ =>
      if isLookup method && args.length == 1 then true
      else if method == "get" && args.length == 1 then
        (target.bind fun t => s.bindingOfKind? scope .elements t.stripCasts).isSome
      else method == "until" && target.any (s.isWait scope) && waitYieldsElement args
    | _ => false

def isLocator (s : State) (scope : Nat) (e : Expr) : Bool :=
  match e.stripCasts with
  | .call (some target) _ _ _ _ => target.isName "By"
  | e => (s.bindingOfKind? scope .by e).isSome

end State

def ask {α : Type} (question : State → α) : Extract α := return question (← get)

/-! ### Numbers -/

/-- A literal value as a number of seconds or of anything else. -/
def floatOf : Scalar → Extract Float
  | .int n =>
    match Number.ofInt? n with
    | some x => return x
    | none => halt .numberTooLarge
  | .real x => return x
  | .flag b => return if b then 1.0 else 0.0
  | .text s =>
    match Number.realText? s with
    | some x => return x
    | none => halt (.notANumber s)
  | .absent => halt .noNumber

/-- The number an expression stands for: a literal or a constant. -/
def number? (e : Expr) : Extract (Option Float) := do
  match e with
  | .literal .number value _ _ => return some (← floatOf value)
  | .name name _ _ =>
    match Table.get? name (← get).constants with
    | some { value := .int n, .. } => return some (← floatOf (.int n))
    | some { value := .real x, .. } => return some x
    | _ => return none
  | _ => return none

/-- The seconds of a duration, or of a bare number. -/
def seconds? (e : Expr) : Extract (Option Float) := do
  match e with
  | .call (some target) method args _ _ =>
    match if target.isName "Duration" then durationFactor? method else none with
    | some factor =>
      match args with
      | [arg] => return (← number? arg).map (· * factor)
      | _ => return none
    | none => return none
  | e => number? e

def timeoutOfNew? (args : List Expr) : Extract (Option Float) := do
  match args with
  | _ :: duration :: _ => seconds? duration
  | _ => return none

end TestMigration.Extraction
