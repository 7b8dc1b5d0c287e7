import TestMigration.Proofs.Rendering.Obstacles
import TestMigration.Proofs.Rendering.SourceOrder
/-!
# Scopes that go along with two renderings

Of two renderings of one body, in one of which a text stands for the calls that the other keeps as
text, the first binds at least what the second binds: whatever lacks a target form in the first
lacks one in the second (`Twin.lacks_demoteValue`), so a lookup becomes a comment in both or only in
the second. The two scopes stay twins along the body (`twin_lostIn`), and what the second rendering
leaves in the trace is a part of what the first leaves (`bodyMarks_demoteActions`).
-/

namespace TestMigration.Rendering

open TestMigration.Action Linking Text Profile
open scoped List

/-! ### What lacks a target form -/

section Lacks

variable {e : Env} {u : SourceUnit} {ids : List String} {σ σ' : Scope}
variable {demoted : String → Bool} {text : String} {field field' : LocatorField → Bool}

theorem Twin.elementLacks (h : Twin e ids σ σ') (hfield : ∀ f, field f = true → field' f = true)
    {ref : ElementRef} (hlacks : σ.elementLacks e field ref = true) :
    σ'.elementLacks (e.on u) field' ref = true := by
  unfold Scope.elementLacks at hlacks ⊢
  rw [show σ'.field? (e.on u) ref.name = σ.field? e ref.name from h.field?_eq _, h.mode]
  split at hlacks
  · cases hlacks
  · rename_i hunbound
    rw [if_neg fun hmem => hunbound (h.bound _ hmem)]
    split at hlacks
    · rename_i horigin
      rw [if_pos horigin]
      split at hlacks
      · cases hlacks
      · rename_i hpage
        rw [if_neg hpage]
        cases hfound : σ.field? e ref.name with
        | some f =>
          rw [hfound] at hlacks
          exact hfield f hlacks
        | none =>
          rw [hfound] at hlacks
          cases hlacks
    · cases hlacks

mutual

theorem valueLacks_demoteValue
    (helement : ∀ ref, σ.elementLacks e field ref = true →
      σ'.elementLacks (e.on u) field' ref = true)
    (v : Value) (hv : σ.valueLacks e field (literalValue demoted text v) = true) :
    σ'.valueLacks (e.on u) field' (demoteValue demoted v) = true := by
  unfold Scope.valueLacks at hv ⊢
  match v with
  | .literal _ | .variable _ | .driver | .pageQuery _ =>
    simp [literalValue, Value.parts, Scope.partLacks] at hv
  | .element ref | .elementQuery ref query none =>
    simp only [literalValue, demoteValue, Value.parts, List.any_cons, List.any_nil, Bool.or_false,
      Scope.partLacks] at hv ⊢
    exact helement ref hv
  | .elementQuery ref query (some arg) =>
    simp only [literalValue, demoteValue, Value.parts, List.any_cons, Scope.partLacks,
      Bool.or_eq_true] at hv ⊢
    exact hv.imp (helement ref) (valueLacks_demoteValue helement arg)
  | .not operand =>
    simp only [literalValue, demoteValue, Value.parts, List.any_cons, Scope.partLacks,
      Bool.false_or] at hv ⊢
    exact valueLacks_demoteValue helement operand hv
  | .binary _ left right | .contains left right =>
    simp only [literalValue, demoteValue, Value.parts, List.any_cons, List.any_append,
      Scope.partLacks, Bool.false_or, Bool.or_eq_true] at hv ⊢
    exact hv.imp (valueLacks_demoteValue helement left) (valueLacks_demoteValue helement right)
  | .call (.mk id _ _ args _ _ _) =>
    cases hdemoted : demoted id with
    | true => simp [literalValue, hdemoted, Value.parts, Scope.partLacks] at hv
    | false =>
      simp only [literalValue, demoteValue, hdemoted, Bool.false_eq_true, if_false, Value.parts,
        List.any_cons, Scope.partLacks, Bool.false_or] at hv ⊢
      exact anyLacks_demoteValues helement args hv
  | .script _ args | .construct _ args =>
    simp only [literalValue, demoteValue, Value.parts, List.any_cons, Scope.partLacks,
      Bool.false_or] at hv ⊢
    exact anyLacks_demoteValues helement args hv
  | .verbatim _ => simp [demoteValue, Value.parts, Scope.partLacks]

theorem anyLacks_demoteValues
    (helement : ∀ ref, σ.elementLacks e field ref = true →
      σ'.elementLacks (e.on u) field' ref = true)
    (vs : List Value)
    (hvs : (partsOf (literalValues demoted text vs)).any (σ.partLacks e field) = true) :
    (partsOf (demoteValues demoted vs)).any (σ'.partLacks (e.on u) field') = true := by
  match vs with
  | [] => simp [literalValues, partsOf] at hvs
  | v :: rest =>
    simp only [literalValues, demoteValues, partsOf, List.any_append, Bool.or_eq_true] at hvs ⊢
    exact hvs.imp (valueLacks_demoteValue helement v) (anyLacks_demoteValues helement rest)

end

variable (h : Twin e ids σ σ')
include h

theorem Twin.locatorLacks (hfield : ∀ f, field f = true → field' f = true) {l : Locator}
    (hl : σ.locatorLacks e field { l with value := literalValue demoted text l.value } = true) :
    σ'.locatorLacks (e.on u) field' { l with value := demoteValue demoted l.value } = true := by
  have hvalue : σ.valueLacks e field (literalValue demoted text l.value) = true →
      σ'.valueLacks (e.on u) field' (demoteValue demoted l.value) = true :=
    valueLacks_demoteValue (fun _ => h.elementLacks hfield) l.value
  unfold Scope.locatorLacks at hl ⊢
  cases hstrategy : Table.get? l.strategy e.profile.locators.strategies with
  | none => simp [hstrategy] at hl
  | some template =>
    simp only [hstrategy] at hl ⊢
    cases hshape : template.shape with
    | expression form =>
      simp only [hshape] at hl ⊢
      exact hvalue hl
    | selector form =>
      simp only [hshape, Bool.and_eq_true] at hl ⊢
      exact ⟨hl.1, hvalue hl.2⟩

theorem Twin.fieldLacks (n : Nat) (f : LocatorField)
    (hf : σ.fieldLacks e n f = true) : σ'.fieldLacks (e.on u) n f = true := by
  induction n generalizing f with
  | zero => cases hf
  | succ n ih =>
    have hlocator : σ.locatorLacks e (σ.fieldLacks e n)
          { f.locator with value := literalValue (fun _ => false) "" f.locator.value } = true →
        σ'.locatorLacks (e.on u) (σ'.fieldLacks (e.on u) n)
          { f.locator with value := demoteValue (fun _ => false) f.locator.value } = true :=
      h.locatorLacks ih
    rw [(value_of_none _ _).1, (value_of_none "" _).2] at hlocator
    exact hlocator hf

/-- What lacks a target form with texts in place of calls also lacks one with the calls kept as
text. -/
theorem Twin.lacks_demoteValue {v : Value} (hv : σ.lacks e (literalValue demoted text v) = true) :
    σ'.lacks (e.on u) (demoteValue demoted v) = true := by
  unfold Scope.lacks at hv ⊢
  rw [show σ'.depth (e.on u) = σ.depth e from h.depth_eq]
  exact valueLacks_demoteValue (fun _ => h.elementLacks (h.fieldLacks _)) v hv

theorem Twin.lacksAny_demoteValues {vs : List Value}
    (hvs : σ.lacksAny e (literalValues demoted text vs) = true) :
    σ'.lacksAny (e.on u) (demoteValues demoted vs) = true := by
  unfold Scope.lacksAny at hvs ⊢
  rw [show σ'.depth (e.on u) = σ.depth e from h.depth_eq]
  exact anyLacks_demoteValues (fun _ => h.elementLacks (h.fieldLacks _)) vs hvs

theorem Twin.lacksElement {ref : ElementRef}
    (href : σ.lacksElement e ref = true) : σ'.lacksElement (e.on u) ref = true := by
  unfold Scope.lacksElement at href ⊢
  rw [show σ'.depth (e.on u) = σ.depth e from h.depth_eq]
  exact h.elementLacks (h.fieldLacks _) href

theorem Twin.lacksLocator_demoteValue {l : Locator}
    (hl : σ.lacksLocator e { l with value := literalValue demoted text l.value } = true) :
    σ'.lacksLocator (e.on u) { l with value := demoteValue demoted l.value } = true := by
  unfold Scope.lacksLocator at hl ⊢
  rw [show σ'.depth (e.on u) = σ.depth e from h.depth_eq]
  exact h.locatorLacks (h.fieldLacks _) hl

end Lacks

/-! ### What is bound -/

/-- The element that an action binds. -/
def lookupId? : Action → Option String
  | .locate l => some l.ref.id
  | .pick k => some k.ref.id
  | _ => none

/-- The elements that a body may bind. -/
def lookupIds (body : List Action) : List String := (all body).filterMap lookupId?

theorem lookupIds_cons (a : Action) (rest : List Action) :
    lookupIds (a :: rest) = a.nested.filterMap lookupId? ++ lookupIds rest := by
  rw [lookupIds, all, List.filterMap_append, lookupIds]

theorem lookups_fork {ids : List String} {a : Action} {first second : List Action}
    (hnested : a.nested = a :: (all first ++ all second)) (hnone : lookupId? a = none)
    (h : ∀ id ∈ a.nested.filterMap lookupId?, id ∈ ids) :
    (∀ id ∈ lookupIds first, id ∈ ids) ∧ ∀ id ∈ lookupIds second, id ∈ ids := by
  rwa [hnested, List.filterMap_cons_none hnone, List.filterMap_append, List.forall_mem_append] at h

mutual

theorem lookupIds_literalAction (demoted : String → Bool) (text : String) (a : Action) :
    (literalAction demoted text a).nested.filterMap lookupId? =
      (demoteAction demoted a).nested.filterMap lookupId? := by
  cases a with
  | branch _ first second _ | probe first second _ =>
    have hfirst := lookupIds_literalActions demoted text first
    have hsecond := lookupIds_literalActions demoted text second
    rw [lookupIds, lookupIds] at hfirst hsecond
    simp only [literalAction, demoteAction, nested]
    rw [List.filterMap_cons_none rfl, List.filterMap_cons_none rfl, List.filterMap_append,
      List.filterMap_append, hfirst, hsecond]
  | delegate d =>
    cases hdemoted : demoted d.call.id <;> cases hbind : d.bind.isEmpty <;>
      simp only [literalAction, demoteAction, hdemoted, hbind] <;> rfl
  | verbatim => simp only [literalAction, demoteAction]
  | _ =>
    simp only [literalAction, demoteAction]
    rfl

theorem lookupIds_literalActions (demoted : String → Bool) (text : String) (body : List Action) :
    lookupIds (literalActions demoted text body) = lookupIds (demoteActions demoted body) := by
  match body with
  | [] => simp [literalActions, demoteActions]
  | a :: rest =>
    simp only [literalActions, demoteActions, lookupIds_cons,
      lookupIds_literalAction demoted text a, lookupIds_literalActions demoted text rest]

end

/-- A scope that has come from another by binding elements. -/
structure Scope.Grows (ids : List String) (σ τ : Scope) : Prop where
  unit : τ.unit = σ.unit
  mode : τ.mode = σ.mode
  kept : ∀ id ∈ σ.bound, id ∈ τ.bound
  added : ∀ id ∈ τ.bound, id ∈ σ.bound ∨ id ∈ ids

section Grows

variable {env : Env} {ids : List String} {σ τ υ : Scope}

theorem Scope.Grows.refl (ids : List String) (σ : Scope) : σ.Grows ids σ :=
  ⟨rfl, rfl, fun _ h => h, fun _ h => .inl h⟩

theorem Scope.Grows.trans (h : σ.Grows ids τ) (h' : τ.Grows ids υ) : σ.Grows ids υ where
  unit := h'.unit.trans h.unit
  mode := h'.mode.trans h.mode
  kept id hid := h'.kept id (h.kept id hid)
  added id hid := (h'.added id hid).elim (h.added id) .inr

theorem Scope.Grows.bind {id : String} (h : id ∈ ids) : σ.Grows ids (σ.bind id) where
  unit := rfl
  mode := rfl
  kept _ hid := List.mem_cons_of_mem _ hid
  added x hx := by
    rcases List.mem_cons.mp hx with rfl | hx
    · exact .inr h
    · exact .inl hx

mutual

theorem grows_lostInAction (σ : Scope) (a : Action)
    (ha : ∀ id ∈ a.nested.filterMap lookupId?, id ∈ ids) :
    σ.Grows ids (lostInAction env σ a).2 := by
  cases a with
  | locate l | pick l =>
    have hid : l.ref.id ∈ ids := ha _ (by simp [nested, lookupId?])
    rw [lostInAction]
    dsimp only
    split
    · exact .refl ids σ
    · exact .bind hid
  | branch _ thenBody elseBody p =>
    obtain ⟨hthen, helse⟩ := lookups_fork (by rw [nested]) rfl ha
    have hboth := (grows_lostIn σ thenBody hthen).trans (grows_lostIn _ elseBody helse)
    rw [lostInAction]
    split
    · exact .refl ids σ
    · exact hboth
  | probe body fallback p =>
    obtain ⟨hbody, hfallback⟩ := lookups_fork (by rw [nested]) rfl ha
    rw [lostInAction]
    exact (grows_lostIn σ body hbody).trans (grows_lostIn _ fallback hfallback)
  | _ => exact .refl ids σ

theorem grows_lostIn (σ : Scope) (body : List Action) (hbody : ∀ id ∈ lookupIds body, id ∈ ids) :
    σ.Grows ids (lostIn env σ body).2 := by
  match body with
  | [] => exact .refl ids σ
  | a :: rest =>
    rw [lookupIds_cons, List.forall_mem_append] at hbody
    rw [lostIn]
    exact (grows_lostInAction σ a hbody.1).trans (grows_lostIn _ rest hbody.2)

end

end Grows

section Twins

variable {e : Env} {u : SourceUnit} {ids : List String} {σ σ' : Scope}
variable {demoted : String → Bool} {text : String}

theorem Twin.grows (h : Twin e ids σ σ') {τ : Scope} (hg : σ.Grows ids τ) : Twin e ids τ σ' where
  unitName := by rw [hg.unit, h.unitName]
  package := by rw [hg.unit, h.package]
  locatorFields := by rw [hg.unit, h.locatorFields]
  writable := h.writable
  mode := by rw [hg.mode, h.mode]
  bound id hid := hg.kept id (h.bound id hid)
  known id hid := (hg.added id hid).elim (h.known id) fun hid => hid
  apart name f hf := by
    unfold Scope.field? at hf
    rw [hg.unit] at hf
    exact h.apart name f hf

theorem Twin.bind (h : Twin e ids σ σ') {id : String} (hid : id ∈ ids) :
    Twin e ids (σ.bind id) (σ'.bind id) :=
  { h.grows (.bind hid) with bound := fun _ hx => List.cons_subset_cons id h.bound hx }

/-- What a lookup does to twins, if it lacks a target form in the first only where it does in the
second. -/
theorem Twin.lookup (h : Twin e ids σ σ') {b b' : Bool} (hb : b = true → b' = true) {id : String}
    (hid : id ∈ ids) :
    Twin e ids (if b then σ else σ.bind id) (if b' then σ' else σ'.bind id) := by
  cases b with
  | true =>
    rw [if_pos (hb rfl)]
    exact h
  | false =>
    cases b' with
    | true => exact h.grows (.bind hid)
    | false => exact h.bind hid

mutual

theorem twin_lostInAction {σ σ' : Scope} (h : Twin e ids σ σ') (a : Action)
    (ha : ∀ id ∈ (demoteAction demoted a).nested.filterMap lookupId?, id ∈ ids) :
    Twin e ids (lostInAction e σ (literalAction demoted text a)).2
      (lostInAction (e.on u) σ' (demoteAction demoted a)).2 := by
  cases a with
  | locate l =>
    have hid : l.ref.id ∈ ids := ha _ (by simp [demoteAction, nested, lookupId?])
    simp only [literalAction, demoteAction, lostInAction]
    refine h.lookup (fun hlacks => ?_) hid
    rw [Bool.or_eq_true] at hlacks ⊢
    refine hlacks.imp (fun hparent => ?_) h.lacksLocator_demoteValue
    rw [Option.any_eq_true] at hparent ⊢
    exact hparent.imp fun _ hlacks => ⟨hlacks.1, h.lacksElement hlacks.2⟩
  | pick k =>
    have hid : k.ref.id ∈ ids := ha _ (by simp [demoteAction, nested, lookupId?])
    simp only [literalAction, demoteAction, lostInAction]
    refine h.lookup (fun hlacks => ?_) hid
    rw [Bool.or_eq_true] at hlacks ⊢
    exact hlacks.imp h.lacksElement h.lacks_demoteValue
  | branch condition thenBody elseBody p =>
    rw [demoteAction] at ha
    obtain ⟨hthen, helse⟩ := lookups_fork (by rw [nested]) rfl ha
    simp only [literalAction, demoteAction, lostInAction]
    cases hlacks : σ.lacks e (literalValue demoted text condition) with
    | true =>
      rw [h.lacks_demoteValue hlacks]
      exact h
    | false =>
      cases σ'.lacks (e.on u) (demoteValue demoted condition) with
      | true =>
        -- Only the second rendering leaves the branch out; the first one binds what it likes.
        rw [← lookupIds_literalActions demoted text] at hthen helse
        exact h.grows ((grows_lostIn _ _ hthen).trans (grows_lostIn _ _ helse))
      | false => exact twin_lostIn (twin_lostIn h thenBody hthen) elseBody helse
  | probe body fallback p =>
    rw [demoteAction] at ha
    obtain ⟨hbody, hfallback⟩ := lookups_fork (by rw [nested]) rfl ha
    simp only [literalAction, demoteAction, lostInAction]
    exact twin_lostIn (twin_lostIn h body hbody) fallback hfallback
  | delegate d =>
    cases hdemoted : demoted d.call.id <;> cases hbind : d.bind.isEmpty <;>
      simpa only [literalAction, demoteAction, hdemoted, hbind, Bool.false_eq_true, if_true,
        if_false, lostInAction] using h
  | _ => simpa only [literalAction, demoteAction, lostInAction] using h

theorem twin_lostIn {σ σ' : Scope} (h : Twin e ids σ σ') (body : List Action)
    (hbody : ∀ id ∈ lookupIds (demoteActions demoted body), id ∈ ids) :
    Twin e ids (lostIn e σ (literalActions demoted text body)).2
      (lostIn (e.on u) σ' (demoteActions demoted body)).2 := by
  match body with
  | [] => simpa only [literalActions, demoteActions, lostIn] using h
  | a :: rest =>
    rw [demoteActions, lookupIds_cons, List.forall_mem_append] at hbody
    simp only [literalActions, demoteActions, lostIn]
    exact twin_lostIn (twin_lostInAction h a hbody.1) rest hbody.2

end

end Twins

/-! ### The question whether an element can be seen -/

section Presence

variable {demoted : String → Bool} {text : String}

/-- What a body returns that does nothing else. -/
def returned? : List Action → Option Value
  | [.ret v _] => v
  | _ => none

theorem exists_of_returned? {body : List Action} {v : Value} (h : returned? body = some v) :
    ∃ p, body = [.ret (some v) p] := by
  unfold returned? at h
  split at h
  · exact ⟨_, by rw [h]⟩
  · cases h

theorem returned?_literalActions (body : List Action) :
    returned? (literalActions demoted text body) =
      (returned? body).map (literalValue demoted text) := by
  match body with
  | [] | _ :: _ :: _ => simp [literalActions, returned?]
  | [a] =>
    cases a with
    | delegate d =>
      simp only [literalActions, literalAction]
      split
      · split <;> rfl
      · rfl
    | _ => simp [literalActions, literalAction, returned?]

theorem returned?_demoteActions (body : List Action) :
    returned? (demoteActions demoted body) = (returned? body).map (demoteValue demoted) := by
  match body with
  | [] | _ :: _ :: _ => simp [demoteActions, returned?]
  | [a] =>
    cases a with
    | delegate d =>
      simp only [demoteActions, demoteAction]
      split <;> rfl
    | _ => simp [demoteActions, demoteAction, returned?]

/-- Whether a value asks if an element can be seen, and whether it is the answer no. -/
def sight : Value → Bool × Bool
  | .elementQuery _ query _ => (query == "visible", false)
  | .literal l => (false, l.value = .flag false)
  | _ => (false, false)

theorem sight_literalValue (v : Value) : sight (literalValue demoted text v) = sight v := by
  cases v with
  | call c =>
    cases c
    simp only [literalValue]
    split <;> simp [sight]
  | elementQuery _ _ arg => cases arg <;> simp [literalValue, sight]
  | _ => simp [literalValue, sight]

theorem sight_demoteValue (v : Value) : sight (demoteValue demoted v) = sight v := by
  cases v with
  | call c =>
    cases c
    simp only [demoteValue]
    split <;> rfl
  | elementQuery _ _ arg => cases arg <;> simp [demoteValue, sight]
  | _ => simp [demoteValue, sight]

theorem presenceCheck_eq (body fallback : List Action) :
    presenceCheck body fallback = ((returned? fallback).filter (sight · |>.2)).bind fun _ =>
      (returned? body).filter (sight · |>.1) := by
  ext v
  rw [presenceCheck_eq_some_iff]
  constructor
  · rintro ⟨_, _, p, l, q, rfl, rfl, hfalse, rfl⟩
    simp [returned?, sight, hfalse, Option.filter]
  · intro h
    obtain ⟨w, hw, hv⟩ := Option.bind_eq_some_iff.mp h
    obtain ⟨hw, hdenies⟩ := Option.filter_eq_some_iff.mp hw
    obtain ⟨hv, hasks⟩ := Option.filter_eq_some_iff.mp hv
    obtain ⟨q, rfl⟩ := exists_of_returned? hw
    obtain ⟨p, rfl⟩ := exists_of_returned? hv
    cases v <;> simp [sight] at hasks
    cases w <;> simp [sight] at hdenies
    subst hasks
    exact ⟨_, _, p, _, q, rfl, rfl, hdenies, rfl⟩

/-- Whether a probe only asks if an element can be seen does not depend on what stands in place of
calls. -/
theorem presenceCheck_map {g : Value → Value} (hsight : ∀ v, sight (g v) = sight v)
    {body fallback body' fallback' : List Action} (hbody : returned? body' = (returned? body).map g)
    (hfallback : returned? fallback' = (returned? fallback).map g) :
    presenceCheck body' fallback' = (presenceCheck body fallback).map g := by
  rw [presenceCheck_eq, presenceCheck_eq, hbody, hfallback]
  rcases returned? fallback with - | w
  · rfl
  rcases returned? body with - | v
  · simp only [Option.map_none, Option.filter_none, Option.bind_fun_none]
  by_cases hw : (sight w).2 <;> by_cases hv : (sight v).1 <;> simp [Option.filter, hsight, hw]

theorem presenceCheck_literalActions (body fallback : List Action) :
    presenceCheck (literalActions demoted text body) (literalActions demoted text fallback) =
      (presenceCheck body fallback).map (literalValue demoted text) :=
  presenceCheck_map sight_literalValue (returned?_literalActions body)
    (returned?_literalActions fallback)

theorem presenceCheck_demoteActions (body fallback : List Action) :
    presenceCheck (demoteActions demoted body) (demoteActions demoted fallback) =
      (presenceCheck body fallback).map (demoteValue demoted) :=
  presenceCheck_map sight_demoteValue (returned?_demoteActions body)
    (returned?_demoteActions fallback)

end Presence

/-! ### What is left in the trace -/

mutual

theorem scope_marksInAction (env : Env) (splice : Scope → Delegation → MarkList)
    (σ : Scope) (a : Action) : (marksInAction env splice σ a).2 = (lostInAction env σ a).2 := by
  cases a with
  | branch _ thenBody elseBody p =>
    have hthen := scope_marksIn env splice σ thenBody
    rw [marksInAction, lostInAction]
    split
    · rfl
    · dsimp only
      rw [hthen]
      exact scope_marksIn env splice _ elseBody
  | probe body fallback p =>
    cases hpresence : presenceCheck body fallback with
    | some =>
      obtain ⟨_, _, q, l, _, rfl, rfl, -, rfl⟩ := presenceCheck_eq_some_iff.mp hpresence
      simp [marksInAction, hpresence, lostInAction, lostIn]
    | none =>
      have hbody := scope_marksIn env splice σ body
      rw [marksInAction, lostInAction, hpresence]
      dsimp only
      rw [hbody]
      exact scope_marksIn env splice _ fallback
  | _ => simp only [marksInAction, lostInAction]

theorem scope_marksIn (env : Env) (splice : Scope → Delegation → MarkList)
    (σ : Scope) (body : List Action) : (marksIn env splice σ body).2 = (lostIn env σ body).2 := by
  match body with
  | [] => simp only [marksIn, lostIn]
  | a :: rest =>
    simp only [marksIn, lostIn, scope_marksInAction env splice σ a]
    exact scope_marksIn env splice _ rest

end

section Marks

variable {e : Env} {u : SourceUnit} {ids : List String}
variable {demoted : String → Bool} {text : String}
variable {splice splice' : Scope → Delegation → MarkList}

theorem Twin.lapsed_demoteAction {σ σ' : Scope} (h : Twin e ids σ σ') {a : Action}
    (ha : lapsed e σ (literalAction demoted text a) = true) :
    lapsed (e.on u) σ' (demoteAction demoted a) = true := by
  cases a with
  | navigate | pause =>
    exact h.lacks_demoteValue ha
  | interact =>
    simp only [literalAction, demoteAction, lapsed, Bool.or_eq_true] at ha ⊢
    exact ha.imp h.lacksElement h.lacksAny_demoteValues
  | wait =>
    simp only [literalAction, demoteAction, lapsed, Bool.or_eq_true, Option.any_eq_true] at ha ⊢
    refine ha.imp h.lacksAny_demoteValues ?_
    rintro ⟨ref, href, hlacks⟩
    exact ⟨ref, href, h.lacksElement hlacks⟩
  | assert =>
    have hmap : ∀ {v : Option Value}, (v.map (literalValue demoted text)).any (σ.lacks e) = true →
        (v.map (demoteValue demoted)).any (σ'.lacks (e.on u)) = true := by
      intro v hv
      cases v with
      | none => cases hv
      | some v => exact h.lacks_demoteValue hv
    simp only [literalAction, demoteAction, lapsed, Bool.or_eq_true] at ha ⊢
    exact ha.imp h.lacks_demoteValue (Or.imp hmap hmap)
  | script =>
    exact h.lacksAny_demoteValues ha
  | delegate =>
    simp only [literalAction] at ha
    split at ha
    · split at ha <;> cases ha
    · cases ha
  | locate | pick | bind | branch | probe | ret | command | verbatim =>
    simp [literalAction, lapsed] at ha

theorem ownMarks_demoteAction (a : Action) :
    ownMarks (e.on u) (demoteAction demoted a) = ownMarks e (literalAction demoted text a) := by
  cases a with
  | delegate d =>
    simp only [literalAction, demoteAction]
    split
    · split <;> rfl
    · rfl
  | _ => simp only [literalAction, demoteAction, ownMarks]

theorem sublist_of_lapsed {b b' : Bool} (hb : b = true → b' = true)
    (own : MarkList) :
    (if b' then [] else own) <+ (if b then [] else own) := by
  cases b' with
  | true => exact List.nil_sublist _
  | false =>
    cases b with
    | true => cases hb rfl
    | false => exact List.Sublist.refl _

theorem Twin.sublist_ownMarks {σ σ' : Scope} (h : Twin e ids σ σ') (a : Action) :
    (if lapsed (e.on u) σ' (demoteAction demoted a) then []
      else ownMarks (e.on u) (demoteAction demoted a)) <+
    (if lapsed e σ (literalAction demoted text a) then []
      else ownMarks e (literalAction demoted text a)) := by
  rw [ownMarks_demoteAction]
  exact sublist_of_lapsed h.lapsed_demoteAction _

mutual

theorem marksInAction_demoteAction (henv : e.strategy ≠ .inline) {σ σ' : Scope}
    (h : Twin e ids σ σ') (a : Action)
    (ha : ∀ id ∈ (demoteAction demoted a).nested.filterMap lookupId?, id ∈ ids) :
    (marksInAction (e.on u) splice' σ' (demoteAction demoted a)).1 <+
      (marksInAction e splice σ (literalAction demoted text a)).1 := by
  cases a with
  | branch condition thenBody elseBody p =>
    rw [demoteAction] at ha
    obtain ⟨hthen, helse⟩ := lookups_fork (by rw [nested]) rfl ha
    simp only [literalAction, demoteAction, marksInAction]
    cases hlacks' : σ'.lacks (e.on u) (demoteValue demoted condition) with
    | true => exact List.nil_sublist _
    | false =>
      have hlacks : σ.lacks e (literalValue demoted text condition) = false := by
        rw [Bool.eq_false_iff]
        intro hlacks
        rw [h.lacks_demoteValue hlacks] at hlacks'
        cases hlacks'
      simp only [hlacks, Bool.false_eq_true, if_false, scope_marksIn]
      exact (marksIn_demoteActions henv h thenBody hthen).append
        (marksIn_demoteActions henv (twin_lostIn h thenBody hthen) elseBody helse)
  | probe body fallback p =>
    rw [demoteAction] at ha
    obtain ⟨hbody, hfallback⟩ := lookups_fork (by rw [nested]) rfl ha
    simp only [literalAction, demoteAction, marksInAction]
    rw [presenceCheck_literalActions, presenceCheck_demoteActions]
    cases presenceCheck body fallback with
    | some v => exact sublist_of_lapsed h.lacks_demoteValue _
    | none =>
      simp only [Option.map_none, scope_marksIn]
      exact (marksIn_demoteActions henv h body hbody).append
        (marksIn_demoteActions henv (twin_lostIn h body hbody) fallback hfallback)
  | delegate d =>
    have hnothing : (marksInAction (e.on u) splice' σ' (demoteAction demoted (.delegate d))).1 =
        [] := by
      simp only [demoteAction]
      split
      · simp [marksInAction, ownMarks]
      · simp [marksInAction, henv]
    rw [hnothing]
    exact List.nil_sublist _
  | locate | pick | bind | ret | verbatim =>
    simp [demoteAction, marksInAction, ownMarks]
  | command _ _ p => exact List.Sublist.refl _
  | _ => exact h.sublist_ownMarks _

theorem marksIn_demoteActions (henv : e.strategy ≠ .inline) {σ σ' : Scope}
    (h : Twin e ids σ σ') (body : List Action)
    (hbody : ∀ id ∈ lookupIds (demoteActions demoted body), id ∈ ids) :
    (marksIn (e.on u) splice' σ' (demoteActions demoted body)).1 <+
      (marksIn e splice σ (literalActions demoted text body)).1 := by
  match body with
  | [] => simp only [literalActions, demoteActions, marksIn, List.Sublist.refl]
  | a :: rest =>
    rw [demoteActions, lookupIds_cons, List.forall_mem_append] at hbody
    simp only [literalActions, demoteActions, marksIn, scope_marksInAction]
    exact (marksInAction_demoteAction henv h a hbody.1).append
      (marksIn_demoteActions henv (twin_lostInAction h a hbody.1) rest hbody.2)

end

/-- **With its calls kept as text a body leaves a part of what it leaves with texts in their
place.** -/
theorem bodyMarks_demoteActions (henv : e.strategy ≠ .inline) {σ σ' : Scope} (h : Twin e ids σ σ')
    (body : List Action) (hbody : ∀ id ∈ lookupIds (demoteActions demoted body), id ∈ ids) :
    bodyMarks (e.on u) σ' (demoteActions demoted body) <+
      bodyMarks e σ (literalActions demoted text body) :=
  marksIn_demoteActions henv h body hbody

end Marks

end TestMigration.Rendering
