import TestMigration.Proofs.Rendering.Untouched
/-!
# Values without a target form

Whether a value can be written in the target language can be told beforehand. Two things are in the
way: a part of the value known by its text alone, and a part that is an element of a field, outside
of page objects, whose locator has such a part in turn. Which elements are written as the locator of
their field depends on the place: not those that a lookup has bound. What has to be known about a
place is its `Scope`.

In a scope that fits the frame, a value that is written has a target form by this reading, and one
that stops its statement has none (`judges_valueText`). The proof goes along the recursion of
`value`; values leave the frame alone, so the scope still fits when the next part is written.
-/

namespace TestMigration.Rendering

open TestMigration.Action Text Profile

/-! ### Scopes -/

/-- What decides about target forms at a place: unit and mode of its frame, and the bound
elements. -/
structure Scope where
  unit : SourceUnit
  mode : Mode
  bound : List String := []

namespace Scope

/-- A scope describes a frame. -/
structure Fits (σ : Scope) (f : Frame) : Prop where
  unit : f.unit = σ.unit
  mode : f.mode = σ.mode
  bound (id : String) : id ∈ σ.bound ↔ (Table.get? id f.elements).isSome

def bind (σ : Scope) (id : String) : Scope := { σ with bound := id :: σ.bound }

/-- The field of a name, in the unit or the nearest of its superclasses. -/
def field? (env : Env) (σ : Scope) (name : String) : Option LocatorField :=
  match env.model.superclassChain σ.unit.unitName with
  | .ok chain => (σ.unit :: chain).findSome? fun v => v.locatorFields.find? (·.name == name)
  | .error _ => none

/-- Whether an element has no target form, where `field` decides for fields. -/
def elementLacks (env : Env) (σ : Scope) (field : LocatorField → Bool) (ref : ElementRef) : Bool :=
  if ref.id ∈ σ.bound then false
  else if ref.origin = .field then
    if σ.mode = .page then false
    else match σ.field? env ref.name with
      | some f => field f
      | none => false
  else false

/-- Whether a part of a value has no target form of its own. -/
def partLacks (env : Env) (σ : Scope) (field : LocatorField → Bool) : Value → Bool
  | .verbatim _ => true
  | .element ref => elementLacks env σ field ref
  | .elementQuery ref _ _ => elementLacks env σ field ref
  | _ => false

/-- Whether a value has no target form. -/
def valueLacks (env : Env) (σ : Scope) (field : LocatorField → Bool) (v : Value) : Bool :=
  v.parts.any (partLacks env σ field)

/-- Whether a locator has no target form. A selector without a place for the value does not need
it. -/
def locatorLacks (env : Env) (σ : Scope) (field : LocatorField → Bool) (l : Locator) : Bool :=
  match Table.get? l.strategy env.profile.locators.strategies with
  | none => false
  | some template =>
    match template.shape with
    | .expression _ => valueLacks env σ field l.value
    | .selector s => occursIn "$value" s && valueLacks env σ field l.value

/-- Whether a field's element has no target form, through at most so many other fields. -/
def fieldLacks (env : Env) (σ : Scope) : Nat → LocatorField → Bool
  | 0, _ => false
  | n + 1, f => locatorLacks env σ (fieldLacks env σ n) f.locator

/-- The number of fields that there are, and one more. -/
def depth (env : Env) (σ : Scope) : Nat :=
  (σ.unit :: env.model.units).foldl (fun n u => n + u.locatorFields.length) 0 + 1

def lacks (env : Env) (σ : Scope) (v : Value) : Bool :=
  valueLacks env σ (fieldLacks env σ (σ.depth env)) v

def lacksElement (env : Env) (σ : Scope) (ref : ElementRef) : Bool :=
  elementLacks env σ (fieldLacks env σ (σ.depth env)) ref

def lacksLocator (env : Env) (σ : Scope) (l : Locator) : Bool :=
  locatorLacks env σ (fieldLacks env σ (σ.depth env)) l

end Scope

/-! ### Judging a step -/

/-- A step in a scope gives a result only if nothing lacks a target form, and ends for lack of one
only if something does. -/
structure Judges (env : Env) (σ : Scope) (lacks : Bool) {α : Type} (x : Render α) : Prop where
  ok {s s' : State} {a : α} : σ.Fits s.frame → x.run env s = (.ok a, s') → lacks = false
  untranslatable {s s' : State} {text : String} : σ.Fits s.frame →
    x.run env s = (.error (.untranslatable text), s') → lacks = true

section Judges

variable {env : Env} {σ : Scope} {α β : Type} {b c : Bool}
variable {x : Render α} {f : α → Render β}

theorem Judges.of_translated (x : Render α) [h : Keeps Translated x] : Judges env σ false x where
  ok _ _ := rfl
  untranslatable _ hrun := absurd rfl (h.of_run hrun _)

theorem Judges.bind [h : Keeps Quiet x] (hx : Judges env σ b x)
    (hf : ∀ a, Judges env σ c (f a)) : Judges env σ (b || c) (x >>= f) where
  ok {s s'' r} hfits hrun := by
    obtain ⟨a, s', hxrun, hfrun⟩ := exists_of_run_bind hrun
    have hfits' : σ.Fits s'.frame := by rwa [(h.of_run hxrun).frame]
    rw [hx.ok hfits hxrun, (hf a).ok hfits' hfrun]
    rfl
  untranslatable {s s'' text} hfits hrun := by
    rcases hxrun : x.run env s with ⟨_ | a, s'⟩
    · rw [run_bind_error hxrun] at hrun
      cases hrun
      rw [hx.untranslatable hfits hxrun, Bool.true_or]
    · rw [run_bind_ok hxrun] at hrun
      have hfits' : σ.Fits s'.frame := by rwa [(h.of_run hxrun).frame]
      rw [(hf a).untranslatable hfits' hrun, Bool.or_true]

theorem Judges.after [Keeps Plain x] (hf : ∀ a, Judges env σ b (f a)) : Judges env σ b (x >>= f) :=
  (Judges.of_translated x).bind hf

/-- A step in which nothing lacks a target form does not change the verdict before it. -/
theorem Judges.before [Keeps Quiet x] (hx : Judges env σ b x)
    [∀ a, Keeps Translated (f a)] : Judges env σ b (x >>= f) := by
  have h := hx.bind fun a => Judges.of_translated (f a)
  rwa [Bool.or_false] at h

theorem Judges.ite {p : Prop} [Decidable p] {y : Render α} (hx : Judges env σ b x)
    (hy : Judges env σ b y) : Judges env σ b (if p then x else y) := by
  split
  · exact hx
  · exact hy

/-- A step in the current frame need only be judged in frames that fit. -/
theorem Judges.inFittingFrame {k : Frame → Render α} (h : ∀ f, σ.Fits f → Judges env σ b (k f)) :
    Judges env σ b (frame >>= k) where
  ok {s _ _} hfits hrun := (h s.frame hfits).ok hfits hrun
  untranslatable {s _ _} hfits hrun := (h s.frame hfits).untranslatable hfits hrun

theorem Judges.of_eq (h : Judges env σ b x) (hc : c = b) : Judges env σ c x := hc ▸ h

theorem Judges.congr {y : Render α} (h : Judges env σ b x)
    (hy : ∀ s, σ.Fits s.frame → y.run env s = x.run env s) : Judges env σ b y where
  ok hfits hrun := h.ok hfits (hy _ hfits ▸ hrun)
  untranslatable hfits hrun := h.untranslatable hfits (hy _ hfits ▸ hrun)

/-- A step that depends on the profile need only be judged for that of the environment. -/
theorem Judges.withProfile {k : Profile → Render α} (h : Judges env σ b (k env.profile)) :
    Judges env σ b (profile >>= k) := h.congr fun _ _ => rfl

theorem run_fieldLocator {chain : List SourceUnit}
    (hchain : env.model.superclassChain σ.unit.unitName = .ok chain) (name : String) (s : State) :
    (fieldLocator name σ.unit).run env s = (.ok (σ.field? env name), s) := by
  change (liftHalt (env.model.superclassChain σ.unit.unitName) >>= _).run env s = _
  rw [Scope.field?, hchain]
  rfl

theorem run_fieldLocator_halted {halt : Halt}
    (hchain : env.model.superclassChain σ.unit.unitName = .error halt) (name : String) (s : State) :
    (fieldLocator name σ.unit).run env s = (.error (.halted halt), s) := by
  change (liftHalt (env.model.superclassChain σ.unit.unitName) >>= _).run env s = _
  rw [hchain]
  rfl

/-- A step that depends on a field's locator need only be judged for the field that the scope
knows. -/
theorem Judges.withField {name : String} {u : SourceUnit} {k : Option LocatorField → Render α}
    (hu : u = σ.unit) (h : Judges env σ b (k (σ.field? env name))) :
    Judges env σ b (fieldLocator name u >>= k) := by
  subst hu
  cases hchain : env.model.superclassChain σ.unit.unitName with
  | ok =>
    exact h.congr fun s _ => run_bind_ok (run_fieldLocator hchain name s)
  | error =>
    refine ⟨fun {s _ _} _ hk => ?_, fun {s _ _} _ hk => ?_⟩ <;>
      · rw [run_bind_error (run_fieldLocator_halted hchain name s)] at hk
        cases hk

/-! ### Values -/

section Values

variable {field : LocatorField → Render String} {fieldJudge : LocatorField → Bool}

theorem judges_element (hfield : ∀ f, Judges env σ (fieldJudge f) (field f)) (ref : ElementRef) :
    Judges env σ (σ.elementLacks env fieldJudge ref) (element field ref) := by
  refine .inFittingFrame fun f hfits => ?_
  rw [Scope.elementLacks]
  cases helement : Table.get? ref.id f.elements with
  | some =>
    rw [if_pos ((hfits.bound ref.id).mpr (by simp [helement]))]
    exact .of_translated _
  | none =>
    rw [if_neg (by simp [hfits.bound ref.id, helement])]
    by_cases horigin : ref.origin = .field
    · simp only [horigin, ← hfits.mode]
      by_cases hmode : f.mode = .page
      · simp only [hmode, if_true]
        exact .of_translated _
      · simp only [hmode]
        refine .withField hfits.unit ?_
        cases σ.field? env ref.name with
        | some found => exact hfield found
        | none => exact .of_translated _
    · simp only [horigin, if_false]
      exact .of_translated _

instance (typeName : String) : Keeps Plain (constructed typeName) := by
  refine .andThen inferInstance fun _ => Keeps.andThen inferInstance fun _ => ?_
  split <;> infer_instance

variable (hquiet : ∀ f, Keeps Quiet (field f)) (hfield : ∀ f, Judges env σ (fieldJudge f) (field f))

include hquiet hfield

mutual

theorem judges_value (v : Value) :
    Judges env σ (σ.valueLacks env fieldJudge v) (value field v) := by
  match v with
  | .literal l => exact .of_translated (literal l)
  | .variable name => exact .of_translated (variableText name)
  | .driver =>
    rw [value]
    exact .of_translated _
  | .element ref =>
    rw [value]
    exact (judges_element hfield ref).of_eq
      (by simp [Scope.valueLacks, Value.parts, Scope.partLacks])
  | .elementQuery ref query none =>
    rw [value]
    exact (Judges.after fun template => (judges_element hfield ref).before).of_eq
      (by simp [Scope.valueLacks, Value.parts, Scope.partLacks])
  | .elementQuery ref query (some arg) =>
    have harg := judges_value arg
    rw [value]
    exact (Judges.after fun template => harg.bind fun text =>
      (judges_element hfield ref).before).of_eq
      (by simp [Scope.valueLacks, Value.parts, Scope.partLacks, Bool.or_comm])
  | .pageQuery query => exact .of_translated (pageQuery query)
  | .not operand =>
    rw [value]
    exact (judges_value operand).before.of_eq
      (by simp [Scope.valueLacks, Value.parts, Scope.partLacks])
  | .binary _ left right =>
    have hleft := judges_value left
    have hright := judges_value right
    rw [value]
    exact (Judges.after fun p => hleft.bind fun before => hright.before).of_eq
      (by simp [Scope.valueLacks, Value.parts, Scope.partLacks])
  | .contains haystack needle =>
    have hhaystack := judges_value haystack
    have hneedle := judges_value needle
    rw [value]
    exact (hhaystack.bind fun whole => hneedle.before).of_eq
      (by simp [Scope.valueLacks, Value.parts, Scope.partLacks])
  | .call (.mk _ _ _ args _ _ _) | .construct _ args =>
    have hargs := (judges_values args).1
    rw [value]
    exact .after fun target => hargs.before
  | .script _ args =>
    have hargs := (judges_values args).2
    rw [value]
    exact hargs.before
  | .verbatim text =>
    have hlacks : σ.valueLacks env fieldJudge (.verbatim text) = true := by
      simp [Scope.valueLacks, Value.parts, Scope.partLacks]
    rw [hlacks, value]
    exact ⟨fun _ hrun => (by cases hrun), fun _ _ => rfl⟩

theorem judges_values (vs : List Value) :
    Judges env σ ((partsOf vs).any (σ.partLacks env fieldJudge)) (valueList field vs) ∧
      Judges env σ ((partsOf vs).any (σ.partLacks env fieldJudge)) (scriptArgs field vs) := by
  match vs with
  | [] =>
    rw [valueList, scriptArgs]
    exact ⟨.of_translated _, .of_translated _⟩
  | v :: rest =>
    have hv := judges_value v
    obtain ⟨hrest, hscript⟩ := judges_values rest
    rw [partsOf, List.any_append, valueList]
    refine ⟨hv.bind fun text => hrest.before, ?_⟩
    cases v with
    | element ref =>
      have hlacks : (Value.element ref).parts.any (σ.partLacks env fieldJudge) =
          σ.elementLacks env fieldJudge ref := by
        simp [Value.parts, Scope.partLacks]
      rw [hlacks]
      unfold scriptArgs
      exact .after fun p => (judges_element hfield ref).bind fun text => hscript.before
    | _ =>
      unfold scriptArgs
      exact hv.bind fun text => hscript.before

end

theorem judges_selector (template : String) (escape : Option SelectorPlace) (v : Value) :
    Judges env σ (occursIn "$value" template && σ.valueLacks env fieldJudge v)
      (selector field template escape v) := by
  have hv := judges_value hquiet hfield v
  refine .after fun p => ?_
  by_cases hoccurs : occursIn "$value" template = true
  · simp only [hoccurs, Bool.not_true, Bool.false_eq_true, if_false, Bool.true_and]
    cases v with
    | literal l =>
      exact .ite (Judges.of_translated _) (Judges.ite (Judges.after fun _ => hv.before) hv.before)
    | _ => exact .ite (Judges.after fun _ => hv.before) hv.before
  · simp only [hoccurs, Bool.not_false, if_true]
    exact .of_translated _

theorem judges_locatorExpression (l : Locator) (scope : String) (p : Provenance) :
    Judges env σ (σ.locatorLacks env fieldJudge l) (locatorExpression field l scope p) := by
  have hv := judges_value hquiet hfield l.value
  refine .withProfile ?_
  dsimp only
  rw [Scope.locatorLacks]
  cases Table.get? l.strategy env.profile.locators.strategies with
  | none => exact .of_translated _
  | some template =>
    dsimp only
    cases template.shape with
    | expression e => exact hv.before
    | selector s => exact (judges_selector hquiet hfield s template.escape l.value).before

end Values

theorem judges_fieldElement (n : Nat) (f : LocatorField) :
    Judges env σ (σ.fieldLacks env n f) (fieldElement n f) := by
  induction n generalizing f with
  | zero => exact .of_translated (throw (.halted (.circularLocator f.name)))
  | succ n ih =>
    exact .after fun frame =>
      (judges_locatorExpression inferInstance ih f.locator frame.page f.provenance).before

theorem run_fieldText {s : State} (hfits : σ.Fits s.frame) (f : LocatorField) :
    (fieldText f).run env s = (fieldElement (σ.depth env) f).run env s := by
  have hrun : fieldCount.run env s = (.ok ((s.frame.unit :: env.model.units).foldl
      (fun n u => n + u.locatorFields.length) 0), s) := rfl
  rw [fieldText, run_bind_ok hrun, hfits.unit, Scope.depth]

theorem judges_fieldText (f : LocatorField) :
    Judges env σ (σ.fieldLacks env (σ.depth env) f) (fieldText f) :=
  (judges_fieldElement _ f).congr fun _ hfits => run_fieldText hfits f

/-- **A value has a target form where it is written**, and none where it stops a statement. -/
theorem judges_valueText (v : Value) : Judges env σ (σ.lacks env v) (valueText v) :=
  judges_value inferInstance judges_fieldText v

theorem judges_elementText (ref : ElementRef) :
    Judges env σ (σ.lacksElement env ref) (elementText ref) :=
  judges_element judges_fieldText ref

theorem judges_locatorText (l : Locator) (scope : String) (p : Provenance) :
    Judges env σ (σ.lacksLocator env l) (locatorText l scope p) :=
  judges_locatorExpression inferInstance judges_fieldText l scope p

end Judges

end TestMigration.Rendering
