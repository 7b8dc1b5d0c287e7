import TestMigration.Action.Walk
import TestMigration.Halt
/-!
# The linked model

All units of a run, with the method that every call of the project leads to and the project
superclass of every unit that has one.
-/

namespace TestMigration

open TestMigration.Action

/-!
### Source units

What is known about one source file after its bodies have been understood: its kind, its locators
and constants, its methods with their roles, its tests, and what its setup leaves behind for them.
-/

structure Param where
  name : String
  typeName : String
  deriving DecidableEq, Repr

inductive MethodRole where
  | setup
  | teardown
  | setupAll
  | teardownAll
  | constructor
  /-- A method of a test class that is no test. -/
  | helper
  | pageMethod
  | function
  deriving DecidableEq, Repr

def MethodRole.word : MethodRole → String
  | .setup => "setup"
  | .teardown => "teardown"
  | .setupAll => "setup_all"
  | .teardownAll => "teardown_all"
  | .constructor => "constructor"
  | .helper => "helper"
  | .pageMethod => "page_method"
  | .function => "function"

structure Method where
  name : String
  params : List Param
  returnType : String
  role : MethodRole
  actions : List Action
  provenance : Provenance
  static : Bool := false
  deriving BEq, Repr

def Method.arity (m : Method) : Nat := m.params.length

def Method.returnsValue (m : Method) : Bool := m.returnType != "" && m.returnType != "void"

/-- A test with the methods that run before and after it. -/
structure TestCase where
  name : String
  actions : List Action
  provenance : Provenance
  setup : List String := []
  teardown : List String := []
  displayName : String := ""
  disabled : Bool := false
  deriving BEq, Repr

structure LocatorField where
  name : String
  locator : Locator
  provenance : Provenance
  multiple : Bool := false
  deriving BEq, Repr

structure ConstantField where
  name : String
  value : Literal
  provenance : Provenance
  deriving DecidableEq, Repr

/-- What the setup of a class produces and its teardown consumes. -/
structure TestContext where
  browser : String := ""
  defaultTimeout : Option Float := none
  /-- The seconds of each variable that waits. -/
  timeouts : Table String Float := []
  pageObjects : Table String String := []
  driverNames : List String := ["driver"]
  actionsAliases : List String := []
  scriptAliases : List String := []
  deriving Repr

structure PageObject where
  name : String
  fields : List LocatorField
  methods : List Method
  deriving Repr

/-- The locator of each field; of one name the last counts. -/
def PageObject.locators (p : PageObject) : Table String Locator :=
  Table.ofPairs (p.fields.map fun f => (f.name, f.locator))

/-- What a unit is converted to. -/
inductive UnitKind where
  | testClass
  | pageObject
  | utilityModule
  | suite
  | support
  deriving DecidableEq, Repr

def UnitKind.word : UnitKind → String
  | .testClass => "TestClass"
  | .pageObject => "PageObject"
  | .utilityModule => "UtilityModule"
  | .suite => "Suite"
  | .support => "Support"

structure SourceUnit where
  unitName : String
  qualifiedName : String
  simpleName : String
  package : String
  kind : UnitKind
  imports : List String
  provenance : Provenance
  superclass : String := ""
  framework : String := ""
  locatorFields : List LocatorField := []
  constants : List ConstantField := []
  methods : List Method := []
  tests : List TestCase := []
  context : TestContext := {}
  pageObject : Option PageObject := none
  diagnostics : List Diagnostic := []
  deriving Repr

namespace SourceUnit

/-- The methods of a name, and of a number of parameters if given, without constructors. -/
def findMethods (u : SourceUnit) (name : String) (arity : Option Nat := none) : List Method :=
  u.methods.filter fun m =>
    m.name == name && m.role != .constructor && arity.all (m.arity == ·)

def methodsWithRole (u : SourceUnit) (roles : List MethodRole) : List Method :=
  u.methods.filter fun m => roles.contains m.role

end SourceUnit

structure MethodKey where
  unitName : String
  method : String
  arity : Nat
  deriving DecidableEq, Repr

def MethodKey.text (k : MethodKey) : String :=
  k.unitName ++ "#" ++ k.method ++ "/" ++ toString k.arity

/-- The units of a run and the links between them. -/
structure Model where
  units : List SourceUnit
  resolutions : Table String MethodKey := []
  superclasses : Table String String := []
  diagnostics : List Diagnostic := []

namespace Model

def unit? (m : Model) (name : String) : Option SourceUnit := m.units.find? (·.unitName == name)

def unit (m : Model) (name : String) : Except Halt SourceUnit :=
  match m.unit? name with
  | some u => .ok u
  | none => .error (.unknownUnit name)

def method (m : Model) (key : MethodKey) : Except Halt Method := do
  let u ← m.unit key.unitName
  match u.findMethods key.method (some key.arity) with
  | found :: _ => .ok found
  | [] => .error (.unknownMethod key.unitName key.method key.arity)

def resolve? (m : Model) (call : Call) : Option MethodKey := Table.get? call.id m.resolutions

/-- The superclasses of a unit by name, the nearest first, up to one seen before. Each round adds a
new name of the table, so its entries bound the rounds. -/
def superclassNames (superclasses : Table String String) : Nat → List String → String → List String
  | 0, _, _ => []
  | n + 1, seen, name =>
    match Table.get? name superclasses with
    | none => []
    | some parent =>
      if parent == "" || seen.contains parent then []
      else parent :: superclassNames superclasses n (parent :: seen) parent

/-- The superclasses of a unit, the nearest first. -/
def superclassChain (m : Model) (name : String) : Except Halt (List SourceUnit) :=
  (superclassNames m.superclasses m.superclasses.length [name] name).mapM m.unit

end Model

end TestMigration
