import TestMigration.Linking.Project
import TestMigration.Text.Path
/-!
# Linking

From the units of a run to the model of the whole project: the superclass of every unit that has one
here, and the method that every call leads to. Calls into units that could not be read are issues,
as are ambiguous names, missing methods and circles of calls; calls that leave the project are kept
as text.
-/

namespace TestMigration.Linking

open TestMigration.Action Text

/-!
### Calls that leave the project

A call whose target is no unit of the project cannot be linked; it is kept as text. As a statement
it becomes an action that was not understood, and inside of a value it becomes a value known by its
text alone.
-/

mutual

def demoteValue (demoted : String → Bool) : Value → Value
  | .call (.mk id targetType method args style receiver sourceText) =>
    if demoted id then .verbatim sourceText
    else .call (.mk id targetType method (demoteValues demoted args) style receiver sourceText)
  | .not operand => .not (demoteValue demoted operand)
  | .binary op left right => .binary op (demoteValue demoted left) (demoteValue demoted right)
  | .contains haystack needle =>
    .contains (demoteValue demoted haystack) (demoteValue demoted needle)
  | .elementQuery ref query (some arg) => .elementQuery ref query (some (demoteValue demoted arg))
  | .script code args => .script code (demoteValues demoted args)
  | .construct typeName args => .construct typeName (demoteValues demoted args)
  | .elementQuery ref query none => .elementQuery ref query none
  | .literal l => .literal l
  | .variable name => .variable name
  | .driver => .driver
  | .element ref => .element ref
  | .pageQuery query => .pageQuery query
  | .verbatim text => .verbatim text

def demoteValues (demoted : String → Bool) : List Value → List Value
  | [] => []
  | v :: rest => demoteValue demoted v :: demoteValues demoted rest

end

mutual

/-- An action in which the given calls are kept as text. -/
def demoteAction (demoted : String → Bool) : Action → Action
  | .delegate d =>
    if demoted d.call.id then
      .verbatim d.call.sourceText ("'" ++ d.call.targetType ++ "' is not a project unit")
        d.provenance
    else .delegate { d with call := d.call.withArgs (demoteValues demoted d.call.args) }
  | .branch condition thenBody elseBody p =>
    .branch (demoteValue demoted condition) (demoteActions demoted thenBody)
      (demoteActions demoted elseBody) p
  | .probe body fallback p => .probe (demoteActions demoted body) (demoteActions demoted fallback) p
  | .navigate url p => .navigate (demoteValue demoted url) p
  | .locate l =>
    .locate { l with locator := { l.locator with value := demoteValue demoted l.locator.value } }
  | .pick p => .pick { p with index := demoteValue demoted p.index }
  | .interact i => .interact { i with args := demoteValues demoted i.args }
  | .wait w => .wait { w with args := demoteValues demoted w.args }
  | .command name args p => .command name (demoteValues demoted args) p
  | .script s => .script { s with args := demoteValues demoted s.args }
  | .assert a =>
    .assert { a with
      actual := demoteValue demoted a.actual
      expected := a.expected.map (demoteValue demoted)
      message := a.message.map (demoteValue demoted) }
  | .bind b => .bind { b with value := demoteValue demoted b.value }
  | .ret value p => .ret (value.map (demoteValue demoted)) p
  | .pause millis p => .pause (demoteValue demoted millis) p
  | .verbatim text reason p => .verbatim text reason p

def demoteActions (demoted : String → Bool) : List Action → List Action
  | [] => []
  | a :: rest => demoteAction demoted a :: demoteActions demoted rest

end

def demoteMethod (demoted : String → Bool) (m : Method) : Method :=
  { m with actions := demoteActions demoted m.actions }

/-- A unit with the demoted calls kept as text. -/
def demoteUnit (demoted : String → Bool) (u : SourceUnit) : SourceUnit :=
  { u with
    methods := u.methods.map (demoteMethod demoted)
    tests := u.tests.map fun t => { t with actions := demoteActions demoted t.actions }
    pageObject := u.pageObject.map fun p =>
      { p with methods := p.methods.map (demoteMethod demoted) } }

def unitCalls (u : SourceUnit) : List (Call × Nat) :=
  let bodies := u.methods.map Method.actions ++ u.tests.map TestCase.actions
  bodies.flatMap fun body => (all body).flatMap fun a =>
    ((partsOf a.values).filterMap Value.call?).map (·, a.provenance.startLine)

structure Links where
  issues : List Issue := []
  diagnostics : List Diagnostic := []
  resolutions : Table String MethodKey := []
  demoted : List String := []

def demotionWarning (u : SourceUnit) (call : Call) (line : Nat) : Diagnostic :=
  { severity := .warning, unitName := u.unitName
    message := "'" ++ call.sourceText ++ "' targets '" ++ call.targetType ++
      "', which is not a project unit; passed through as opaque"
    position := linePosition line
    code := "link_demoted" }

/-- Resolves a call. `failed` has the units that could not be read, by simple name. -/
def resolveCall (p : Project) (failed : Table String String) (u : SourceUnit) (links : Links)
    (entry : Call × Nat) : Links :=
  let (call, line) := entry
  match p.resolveType call.targetType u with
  | .ambiguous candidates =>
    { links with issues := links.issues ++ [Project.ambiguity call.targetType u line candidates] }
  | .missing =>
    match Table.get? (afterLast '.' call.targetType) failed with
    | some unitName =>
      { links with issues := links.issues ++ [{
          unitName := u.unitName, line
          cause := .unread call.sourceText call.targetType unitName }] }
    | none =>
      { links with
        demoted := links.demoted ++ [call.id]
        diagnostics := links.diagnostics ++ [demotionWarning u call line] }
  | .found target =>
    let (key, issues) := p.resolveMethod target call u line
    { links with
      issues := links.issues ++ issues
      resolutions := match key with
        | some k => Table.put call.id k links.resolutions
        | none => links.resolutions }

def resolveCalls (p : Project) (failed : Table String String) (links : Links) : Links :=
  p.units.foldl (fun links u => (unitCalls u).foldl (resolveCall p failed u) links) links

/-- The unread units by simple name; of several the last one. -/
def failedNames (names : List String) : Table String String :=
  Table.ofPairs ((sortTexts names).map fun name => (Path.simpleStem name, name))

/-- Links the units of a run, some of which could not be read, or fails with all issues. -/
def link (units : List SourceUnit) (failed : List String) : Except (List Issue) Model :=
  let p := Project.ofUnits units
  let (superclasses, issues) := p.superclasses
  let links := resolveCalls p (failedNames failed) { issues }
  let issues := if links.issues.isEmpty then cycleIssues p links.resolutions else links.issues
  if issues.isEmpty then
    .ok {
      units := p.units.map (demoteUnit links.demoted.contains)
      resolutions := links.resolutions
      superclasses
      diagnostics := links.diagnostics }
  else .error issues

end TestMigration.Linking
