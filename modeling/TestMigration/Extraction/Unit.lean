import TestMigration.Extraction.Statement
import TestMigration.Syntax.Balance
/-!
# Understanding a unit

The primary class of a source unit, field by field and method by method. Constructors and setup
methods are read first, because what they establish holds in every other body; the results are put
back into source order.
-/

namespace TestMigration.Extraction

open Syntax TestMigration.Action Text

/-! ### What a class is for

A class with tests is a test class; a class named as a page, or with annotated locators, or one that
lets a factory fill its fields, is a page object; every other class is a utility module. -/

def isTestClass (c : ClassDecl) : Bool :=
  c.superclass == some "TestCase"
    || c.methods.any fun m => m.annotations.any fun a => methodMark? a.name == some .test

def isPageObject (c : ClassDecl) : Bool :=
  ["Page", "PageObject"].any (endsWith · c.name)
    || c.fields.any (fun f => f.annotations.any fun a => isLocatorAnnotation a.name)
    || occursIn "PageFactory.initElements" c.text

/-- Whether a class is a collection of functions: by its name, or with more than seven tenths of its
public methods static. -/
def isUtility (c : ClassDecl) : Bool :=
  ["Util", "Utils", "Helper", "Helpers"].any (endsWith · c.name)
    ||
      let exported := c.methods.filter fun m => !m.isConstructor && m.modifiers.contains "public"
      let static := exported.filter fun m => m.modifiers.contains "static"
      decide (10 * static.length > 7 * exported.length)

def kindOf (c : ClassDecl) : UnitKind :=
  if isTestClass c then .testClass else if isPageObject c then .pageObject else .utilityModule

/-! ### Fields -/

structure FieldReading where
  locators : List LocatorField := []
  constants : List ConstantField := []

def attempt {α : Type} (step : Extract α) : Extract (Except Cause α) :=
  tryCatch (do return .ok (← step)) fun
    | .unrecognized cause => return .error cause
    | .halted h => halt h

def constantName : Expr → String
  | .name name _ _ | .fieldAccess _ name _ _ | .call _ name _ _ _ => name
  | _ => ""

def annotatedLocator (a : Annotation) : Extract Locator := do
  let r := readers (depthOf (a.arguments.map Prod.snd))
  match Table.get? "how" a.arguments, Table.get? "using" a.arguments with
  | some how, some target =>
    let name := constantName how
    match constantStrategy? name with
    | some strategy => return { strategy, value := ← valueOf r 0 target }
    | none => refuse (.locatorConstant name)
  | _, _ =>
    let found := a.arguments.findSome? fun (key, e) => (annotationStrategy? key).map (·, e)
    match found with
    | some (strategy, e) => return { strategy, value := ← valueOf r 0 e }
    | none => refuse (.locatorAnnotations a.text)

def defineValue (f : FieldDecl) : Extract Unit :=
  define 0 f.name { kind := .value, typeName := f.typeName }

def annotatedField (f : FieldDecl) (a : Annotation) : Extract FieldReading := do
  match ← attempt (annotatedLocator a) with
  | .error cause =>
    remark (.annotatedField f.name cause) f.span
    defineValue f
    return {}
  | .ok locator =>
    let multiple := baseType f.typeName == "List"
    let ref : ElementRef := { id := "field:" ++ f.name, name := f.name, origin := .field }
    define 0 f.name {
      kind := if multiple then .elements else .element, typeName := f.typeName, ref := some ref }
    return { locators := [{
      name := f.name, locator, provenance := ← provenanceOf f.span, multiple }] }

def locatorField (f : FieldDecl) (init : Expr) : Extract FieldReading := do
  match ← attempt (locatorOf (readers init.depth) 0 init) with
  | .error cause =>
    remark (.locatorField f.name cause) f.span
    defineValue f
    return {}
  | .ok locator =>
    define 0 f.name { kind := .by, typeName := f.typeName, locator := some locator }
    return { locators := [{ name := f.name, locator, provenance := ← provenanceOf f.span }] }

/-- Any other field: a page object, a constant, or an unknown value. -/
def plainField (f : FieldDecl) : Extract FieldReading := do
  if isProjectType f.typeName then
    let t := baseType f.typeName
    define 0 f.name { kind := .pageObject, typeName := t }
    recordPageObject f.name t
    return {}
  else
    match f.init with
    | some (.literal kind value _ _) =>
      defineValue f
      if kind == .null then return {}
      else
        let l := literalOf kind value
        modify fun s => { s with constants := Table.put f.name l s.constants }
        return {
          constants := [{ name := f.name, value := l, provenance := ← provenanceOf f.span }] }
    | _ =>
      defineValue f
      return {}

def readField (f : FieldDecl) : Extract FieldReading := do
  let t := baseType f.typeName
  match f.annotations.find? fun a => isLocatorAnnotation a.name with
  | some a => annotatedField f a
  | none =>
    if isDriverType t then
      define 0 f.name { kind := .driver, typeName := f.typeName }
      addDriver f.name
      match f.init with
      | some (.new typeName args _ _) =>
        let _ ← absorbNew 0 0 f.name typeName args true
      | _ => pure ()
      return {}
    else if isWaitType t then
      define 0 f.name { kind := .wait, typeName := f.typeName }
      match f.init with
      | some init =>
        let _ ← absorb 0 f.name f.typeName init f.span true
      | none => pure ()
      return {}
    else if t == "Actions" then
      define 0 f.name { kind := .actions, typeName := f.typeName }
      modifyContext fun c => { c with actionsAliases := c.actionsAliases ++ [f.name] }
      return {}
    else if isScriptType t then
      define 0 f.name { kind := .script, typeName := f.typeName }
      modifyContext fun c => { c with scriptAliases := c.scriptAliases ++ [f.name] }
      return {}
    else
      match if t == "By" then f.init else none with
      | some init => locatorField f init
      | none => plainField f

def readFields : List FieldDecl → Extract FieldReading
  | [] => return {}
  | f :: rest => do
    let first ← readField f
    let others ← readFields rest
    return {
      locators := first.locators ++ others.locators
      constants := first.constants ++ others.constants }

/-! ### Methods -/

def hasMark (m : MethodDecl) (marks : List MethodMark) : Bool :=
  m.annotations.any fun a => (methodMark? a.name).any marks.contains

/-- Whether a method is read before the others. -/
def comesFirst (m : MethodDecl) : Bool := m.isConstructor || hasMark m [.setup, .setupAll]

def roleOf (m : MethodDecl) (kind : UnitKind) : Extract MethodRole := do
  if m.isConstructor then return .constructor
  else if hasMark m [.setup] then return .setup
  else if hasMark m [.teardown] then return .teardown
  else if hasMark m [.setupAll] then
    remark (.runsBeforeEach m.name) m.span
    return .setupAll
  else if hasMark m [.teardownAll] then
    remark (.runsAfterEach m.name) m.span
    return .teardownAll
  else
    match kind with
    | .pageObject => return .pageMethod
    | .testClass => return .helper
    | _ => return .function

def paramBinding (method : String) (p : Syntax.Param) : Binding :=
  let t := baseType p.typeName
  let typeName := p.typeName
  let ref : ElementRef :=
    { id := "param:" ++ method ++ ":" ++ p.name, name := p.name, origin := .param }
  if isDriverType t then { kind := .driver, typeName }
  else if isElementType t then { kind := .element, typeName, ref := some ref }
  else if isElementList typeName then { kind := .elements, typeName, ref := some ref }
  else if isWaitType t then { kind := .wait, typeName }
  else if isScriptType t then { kind := .script, typeName }
  else if t == "By" then { kind := .by, typeName }
  else if isProjectType typeName then { kind := .pageObject, typeName := t }
  else { kind := .value, typeName }

def methodActions (m : MethodDecl) (role : Option MethodRole) : Extract (List Action) :=
  withReader (fun c => { c with method := m.name, role }) do
    modify fun s => { s with refs := 0 }
    let scope ← openScope 0
    m.params.forM fun p => define scope p.name (paramBinding m.name p)
    block scope m.body

def readMethod (kind : UnitKind) (m : MethodDecl) : Extract Method := do
  let role ← roleOf m kind
  let actions ← methodActions m (some role)
  return {
    name := m.name
    params := m.params.map fun p => { name := p.name, typeName := p.typeName }
    returnType := m.returnType, role, actions
    provenance := ← provenanceOf m.span
    static := m.modifiers.contains "static" }

def annotationText (a : Annotation) (key : String) : String :=
  match Table.get? key a.arguments with
  | some (.literal .string value _ _) => value.plain
  | _ => ""

/-- What the annotations of a test say: its title, and whether it is switched off. -/
def testMarks (annotations : List Annotation) : String × Bool :=
  annotations.foldl (fun (displayName, disabled) a =>
    match methodMark? a.name with
    | some .disabled => (displayName, true)
    | some .displayName => (annotationText a "value", disabled)
    | some .test =>
      let off := match Table.get? "enabled" a.arguments with
        | some (.literal _ (.flag false) _ _) => true
        | _ => false
      (if displayName == "" then annotationText a "description" else displayName, disabled || off)
    | _ => (displayName, disabled)) ("", false)

def readTest (setup teardown : List String) (m : MethodDecl) : Extract TestCase := do
  let (displayName, disabled) := testMarks m.annotations
  if !m.params.isEmpty then remark (.parameters m.name) m.span
  let actions ← methodActions m none
  return {
    name := m.name, actions, provenance := ← provenanceOf m.span, setup, teardown, displayName
    disabled }

structure MethodReading where
  methods : List Method := []
  tests : List TestCase := []

def readMethods (kind : UnitKind) (setup teardown : List String) :
    List MethodDecl → Extract MethodReading
  | [] => return {}
  | m :: rest => do
    if hasMark m [.test] then
      let test ← readTest setup teardown m
      let others ← readMethods kind setup teardown rest
      return { others with tests := test :: others.tests }
    else
      let method ← readMethod kind m
      let others ← readMethods kind setup teardown rest
      return { others with methods := method :: others.methods }

/-! ### Units -/

/-- What is passed over in a unit is told. -/
def remarkIgnored (tree : Tree) (decl : ClassDecl) (primary : Nat) : Extract Unit := do
  (tree.classes.eraseIdx primary).forM fun c => remark (.secondaryClass c.name) c.span
  decl.nested.forM fun name => remark (.nestedType name) decl.span
  tree.recovered.forM fun span => remark .recovered span

def promoted (kind : UnitKind) (tests : List TestCase) : UnitKind :=
  if kind == .testClass && tests.any fun t => (calls t.actions).any (·.style != .self) then .suite
  else kind

def inSourceOrder {α : Type} (line : α → Nat) (items : List α) : List α :=
  sortBy (fun a b => decide (line a ≤ line b)) items

def readClass (tree : Tree) (decl : ClassDecl) (primary : Nat) : Extract SourceUnit := do
  remarkIgnored tree decl primary
  let kind := kindOf decl
  let fields ← readFields decl.fields
  let setup := (decl.methods.filter (hasMark · [.setup, .setupAll])).map MethodDecl.name
  let teardown := (decl.methods.filter (hasMark · [.teardown, .teardownAll])).map MethodDecl.name
  let ordered := decl.methods.filter comesFirst ++ decl.methods.filter (!comesFirst ·)
  let read ← readMethods kind setup teardown ordered
  let methods := inSourceOrder (·.provenance.startLine) read.methods
  let tests := inSourceOrder (·.provenance.startLine) read.tests
  let kind := promoted kind tests
  let s ← get
  let context := if s.context.driverNames.isEmpty then { s.context with driverNames := ["driver"] }
    else s.context
  return {
    unitName := tree.unitName
    qualifiedName := if tree.package == "" then decl.name else tree.package ++ "." ++ decl.name
    simpleName := decl.name
    package := tree.package
    kind
    imports := tree.imports
    provenance := ← provenanceOf decl.span
    superclass := (decl.superclass.map baseType).getD ""
    framework := frameworkOf tree.imports
    locatorFields := fields.locators
    constants := fields.constants
    methods
    tests
    context
    pageObject := if kind == .pageObject then some {
        name := decl.name, fields := fields.locators
        methods := methods.filter (·.role == .pageMethod) }
      else none
    diagnostics := s.diagnostics }

/-- From a syntax tree to a source unit. -/
def extract (tree : Tree) : Except Problem SourceUnit :=
  match tree.primaryIndex?, tree.primaryClass? with
  | some primary, some decl =>
    let context : Context := {
      unitName := tree.unitName, framework := frameworkOf tree.imports, imports := tree.imports,
      decl }
    match (readClass tree decl primary context).run {} with
    | (.ok unit, _) => .ok unit
    | (.error (.halted h), _) => .error (.halted h)
    | (.error (.unrecognized _), _) => .error (.halted .unrecognized)
  | _, _ =>
    .error (.rejected { unitName := tree.unitName, position := { line := 1 }, fault := .noClass })

end TestMigration.Extraction
