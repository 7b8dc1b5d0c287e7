import TestMigration.Linking.Link
/-!
# Texts in place of calls

What a call kept as text costs a unit can be told by comparing it with the unit in which the same
calls have been replaced by an ordinary text (`literalUnit`): there nothing is in the way, and all
else is the same. A call that is a statement of its own is replaced where its result is used; a
statement that binds no result is kept as it is in the linked unit. Where no call is given, both are
the unit itself (`actions_of_none`).
-/

namespace TestMigration.Linking

open TestMigration.Action

mutual

def literalValue (demoted : String → Bool) (text : String) : Value → Value
  | .call (.mk id targetType method args style receiver sourceText) =>
    if demoted id then .literal { value := .text text }
    else .call (.mk id targetType method
      (literalValues demoted text args) style receiver sourceText)
  | .not operand => .not (literalValue demoted text operand)
  | .binary op left right =>
    .binary op (literalValue demoted text left) (literalValue demoted text right)
  | .contains haystack needle =>
    .contains (literalValue demoted text haystack) (literalValue demoted text needle)
  | .elementQuery ref query (some arg) =>
    .elementQuery ref query (some (literalValue demoted text arg))
  | .script code args => .script code (literalValues demoted text args)
  | .construct typeName args => .construct typeName (literalValues demoted text args)
  | .elementQuery ref query none => .elementQuery ref query none
  | .literal l => .literal l
  | .variable name => .variable name
  | .driver => .driver
  | .element ref => .element ref
  | .pageQuery query => .pageQuery query
  | .verbatim text => .verbatim text

def literalValues (demoted : String → Bool) (text : String) : List Value → List Value
  | [] => []
  | v :: rest => literalValue demoted text v :: literalValues demoted text rest

end

mutual

/-- An action in which a text stands for the given calls. -/
def literalAction (demoted : String → Bool) (text : String) : Action → Action
  | .delegate d =>
    if demoted d.call.id then
      if d.bind.isEmpty then
        .verbatim d.call.sourceText ("'" ++ d.call.targetType ++ "' is not a project unit")
          d.provenance
      else
        .bind { name := d.bind, value := .literal { value := .text text }
                provenance := d.provenance, declare := d.declare }
    else .delegate { d with call := d.call.withArgs (literalValues demoted text d.call.args) }
  | .branch condition thenBody elseBody p =>
    .branch (literalValue demoted text condition) (literalActions demoted text thenBody)
      (literalActions demoted text elseBody) p
  | .probe body fallback p =>
    .probe (literalActions demoted text body) (literalActions demoted text fallback) p
  | .navigate url p => .navigate (literalValue demoted text url) p
  | .locate l =>
    .locate { l with
      locator := { l.locator with value := literalValue demoted text l.locator.value } }
  | .pick p => .pick { p with index := literalValue demoted text p.index }
  | .interact i => .interact { i with args := literalValues demoted text i.args }
  | .wait w => .wait { w with args := literalValues demoted text w.args }
  | .command name args p => .command name (literalValues demoted text args) p
  | .script s => .script { s with args := literalValues demoted text s.args }
  | .assert a =>
    .assert { a with
      actual := literalValue demoted text a.actual
      expected := a.expected.map (literalValue demoted text)
      message := a.message.map (literalValue demoted text) }
  | .bind b => .bind { b with value := literalValue demoted text b.value }
  | .ret value p => .ret (value.map (literalValue demoted text)) p
  | .pause millis p => .pause (literalValue demoted text millis) p
  | .verbatim text reason p => .verbatim text reason p

def literalActions (demoted : String → Bool) (text : String) : List Action → List Action
  | [] => []
  | a :: rest => literalAction demoted text a :: literalActions demoted text rest

end

def literalMethod (demoted : String → Bool) (text : String) (m : Method) : Method :=
  { m with actions := literalActions demoted text m.actions }

/-- A unit with a text in place of each demoted call. -/
def literalUnit (demoted : String → Bool) (text : String) (u : SourceUnit) : SourceUnit :=
  { u with
    methods := u.methods.map (literalMethod demoted text)
    tests := u.tests.map fun t => { t with actions := literalActions demoted text t.actions }
    pageObject := u.pageObject.map fun p =>
      { p with methods := p.methods.map (literalMethod demoted text) } }

/-! ### Where no call is given -/

mutual

theorem value_of_none (text : String) (v : Value) :
    literalValue (fun _ => false) text v = v ∧ demoteValue (fun _ => false) v = v := by
  match v with
  | .literal _ | .variable _ | .driver | .element _ | .elementQuery _ _ none | .pageQuery _
  | .verbatim _ => simp only [literalValue, demoteValue, and_self]
  | .elementQuery ref query (some arg) =>
    simp only [literalValue, demoteValue, value_of_none text arg, and_self]
  | .not operand => simp only [literalValue, demoteValue, value_of_none text operand, and_self]
  | .binary _ left right =>
    simp only [literalValue, demoteValue, value_of_none text left, value_of_none text right,
      and_self]
  | .contains haystack needle =>
    simp only [literalValue, demoteValue, value_of_none text haystack, value_of_none text needle,
      and_self]
  | .call (.mk _ _ _ args _ _ _) | .script code args | .construct typeName args =>
    simp only [literalValue, demoteValue, values_of_none text args, Bool.false_eq_true, if_false,
      and_self]

theorem values_of_none (text : String) (vs : List Value) :
    literalValues (fun _ => false) text vs = vs ∧ demoteValues (fun _ => false) vs = vs := by
  match vs with
  | [] => simp only [literalValues, demoteValues, and_self]
  | v :: rest =>
    simp only [literalValues, demoteValues, value_of_none text v, values_of_none text rest,
      and_self]

end

theorem map_of_none (text : String) (v : Option Value) :
    v.map (literalValue (fun _ => false) text) = v ∧ v.map (demoteValue fun _ => false) = v := by
  cases v <;> simp [value_of_none text]

theorem withArgs_args (c : Call) : c.withArgs c.args = c := by
  cases c
  rfl

mutual

theorem action_of_none (text : String) (a : Action) :
    literalAction (fun _ => false) text a = a ∧ demoteAction (fun _ => false) a = a := by
  cases a with
  | branch condition thenBody elseBody p =>
    simp only [literalAction, demoteAction, value_of_none text condition,
      actions_of_none text thenBody, actions_of_none text elseBody, and_self]
  | probe body fallback p =>
    simp only [literalAction, demoteAction, actions_of_none text body,
      actions_of_none text fallback, and_self]
  | _ =>
    simp only [literalAction, demoteAction, (value_of_none text _).1, (value_of_none text _).2,
      (values_of_none text _).1, (values_of_none text _).2, (map_of_none text _).1,
        (map_of_none text _).2,
      withArgs_args, Bool.false_eq_true, if_false, and_self]

/-- **Where no call is given, a body stays as it is.** -/
theorem actions_of_none (text : String) (body : List Action) :
    literalActions (fun _ => false) text body = body ∧
      demoteActions (fun _ => false) body = body := by
  match body with
  | [] => simp only [literalActions, demoteActions, and_self]
  | a :: rest =>
    simp only [literalActions, demoteActions, action_of_none text a, actions_of_none text rest,
      and_self]

end

end TestMigration.Linking
