import TestMigration.Linking.Link
/-!
# What demotion does to a body

Three walks go through bodies and values on their own: one lists the calls, one replaces those that
leave the project, and one pairs the calls with the lines of their actions. That they agree is said
about one list. The *marks* of a body are the calls, statements apart from those inside of values,
and what is known by its text alone, from left to right, each with the calls around it.

On this list demotion is a plain map (`bodyMarks_demoteActions`): what stands inside of a demoted
call is gone, a demoted call is there as its text, and all else stays. The calls of a body are its
marks that are calls (`calls_eq_marks`), so no walk leaves out what another one sees.
-/

namespace TestMigration.Linking

open TestMigration.Action

/-! ### Marks -/

/-- What linking cares about in a body. -/
inductive Mark where
  | statement (c : Call)
  | operand (c : Call)
  | step (text : String)
  /-- A value that is known by its text alone. -/
  | text (text : String)

def Mark.call? : Mark → Option Call
  | .statement c | .operand c => some c
  | .step _ | .text _ => none

/-- A mark, with the identities of the calls around it, outermost first. -/
abbrev Placed := List String × Mark

mutual

def valueMarks (around : List String) : Value → List Placed
  | .call (.mk id targetType method args style receiver sourceText) =>
    (around, .operand (.mk id targetType method args style receiver sourceText)) ::
      valuesMarks (around ++ [id]) args
  | .not operand => valueMarks around operand
  | .binary _ left right => valueMarks around left ++ valueMarks around right
  | .contains haystack needle => valueMarks around haystack ++ valueMarks around needle
  | .elementQuery _ _ (some arg) => valueMarks around arg
  | .script _ args => valuesMarks around args
  | .construct _ args => valuesMarks around args
  | .verbatim text => [(around, .text text)]
  | .elementQuery _ _ none => []
  | .literal _ => []
  | .variable _ => []
  | .driver => []
  | .element _ => []
  | .pageQuery _ => []

def valuesMarks (around : List String) : List Value → List Placed
  | [] => []
  | v :: rest => valueMarks around v ++ valuesMarks around rest

end

/-- The marks of an action, without those of the bodies it holds. -/
def ownMarks : Action → List Placed
  | .delegate d => ([], .statement d.call) :: valuesMarks [d.call.id] d.call.args
  | .verbatim text _ _ => [([], .step text)]
  | a => valuesMarks [] a.values

mutual

def actionMarks : Action → List Placed
  | .branch condition thenBody elseBody _ =>
    valuesMarks [] [condition] ++ (bodyMarks thenBody ++ bodyMarks elseBody)
  | .probe body fallback _ => bodyMarks body ++ bodyMarks fallback
  | a => ownMarks a

def bodyMarks : List Action → List Placed
  | [] => []
  | a :: rest => actionMarks a ++ bodyMarks rest

end

/-! ### The calls of a body are its marks that are calls -/

mutual

theorem calls_eq_valueMarks (around : List String) (v : Value) :
    v.parts.filterMap Value.call? = (valueMarks around v).filterMap (·.2.call?) := by
  match v with
  | .call (.mk id _ _ args _ _ _) =>
    rw [Value.parts, valueMarks]
    exact congrArg (List.cons _) (calls_eq_valuesMarks (around ++ [id]) args)
  | .not operand | .elementQuery _ _ (some operand) =>
    rw [Value.parts, valueMarks, List.filterMap_cons_none rfl, calls_eq_valueMarks around operand]
  | .binary _ left right | .contains left right =>
    rw [Value.parts, valueMarks, List.filterMap_cons_none rfl, List.filterMap_append,
      List.filterMap_append, calls_eq_valueMarks around left, calls_eq_valueMarks around right]
  | .script _ args | .construct _ args =>
    rw [Value.parts, valueMarks, List.filterMap_cons_none rfl, calls_eq_valuesMarks around args]
  | .verbatim _ | .elementQuery _ _ none | .literal _ | .variable _ | .driver | .element _
  | .pageQuery _ => rfl

theorem calls_eq_valuesMarks (around : List String) (vs : List Value) :
    (partsOf vs).filterMap Value.call? = (valuesMarks around vs).filterMap (·.2.call?) := by
  match vs with
  | [] => rfl
  | v :: rest =>
    simp only [partsOf, valuesMarks, List.filterMap_append]
    rw [calls_eq_valueMarks around v, calls_eq_valuesMarks around rest]

end

theorem calls_eq_ownMarks (a : Action) :
    (partsOf a.values).filterMap Value.call? = (ownMarks a).filterMap (·.2.call?) := by
  cases a with
  | delegate d =>
    obtain ⟨⟨id, _, _, args, _, _, _⟩, _, _, _⟩ := d
    rw [values, partsOf, partsOf, List.append_nil]
    exact congrArg (List.cons _) (calls_eq_valuesMarks [id] args)
  | verbatim _ _ p => rfl
  | _ => exact calls_eq_valuesMarks [] _

mutual

theorem calls_eq_actionMarks (a : Action) :
    (a.nested.flatMap fun b => (partsOf b.values).filterMap Value.call?) =
      (actionMarks a).filterMap (·.2.call?) := by
  cases a with
  | branch condition thenBody elseBody p =>
    simp only [nested, actionMarks, List.flatMap_cons, List.flatMap_append, List.filterMap_append]
    rw [← calls_eq_bodyMarks thenBody, ← calls_eq_bodyMarks elseBody,
      ← calls_eq_valuesMarks [] [condition]]
    rfl
  | probe body fallback p =>
    simp only [nested, actionMarks, List.flatMap_cons, List.flatMap_append, List.filterMap_append]
    rw [← calls_eq_bodyMarks body, ← calls_eq_bodyMarks fallback]
    rfl
  | _ =>
    simp only [nested, actionMarks, List.flatMap_singleton]
    exact calls_eq_ownMarks _

theorem calls_eq_bodyMarks (body : List Action) :
    ((all body).flatMap fun b => (partsOf b.values).filterMap Value.call?) =
      (bodyMarks body).filterMap (·.2.call?) := by
  match body with
  | [] => rfl
  | a :: rest =>
    simp only [all, bodyMarks, List.flatMap_append, List.filterMap_append]
    rw [calls_eq_actionMarks a, calls_eq_bodyMarks rest]

end

/-- **The calls of a body are those among its marks**, in the same order. -/
theorem calls_eq_marks (body : List Action) :
    calls body = (bodyMarks body).filterMap (·.2.call?) := calls_eq_bodyMarks body

/-! ### Demotion on marks -/

@[simp] theorem id_withArgs (c : Call) (args : List Value) : (c.withArgs args).id = c.id := by
  cases c; rfl

@[simp] theorem args_withArgs (c : Call) (args : List Value) : (c.withArgs args).args = args := by
  cases c; rfl

@[simp] theorem method_withArgs (c : Call) (args : List Value) :
    (c.withArgs args).method = c.method := by cases c; rfl

@[simp] theorem targetType_withArgs (c : Call) (args : List Value) :
    (c.withArgs args).targetType = c.targetType := by cases c; rfl

def demoteCall (demoted : String → Bool) (c : Call) : Call :=
  c.withArgs (demoteValues demoted c.args)

def demoteMark (demoted : String → Bool) : Mark → Mark
  | .statement c => if demoted c.id then .step c.sourceText else .statement (demoteCall demoted c)
  | .operand c => if demoted c.id then .text c.sourceText else .operand (demoteCall demoted c)
  | .step text => .step text
  | .text text => .text text

/-- What becomes of a mark: nothing inside of a demoted call. -/
def demotePlaced (demoted : String → Bool) (m : Placed) : Option Placed :=
  if m.1.any demoted then none else some (m.1, demoteMark demoted m.2)

section Demote

variable {demoted : String → Bool}

mutual

theorem valueMarks_around (around : List String) (v : Value) :
    ∀ m ∈ valueMarks around v, around <+: m.1 := by
  match v with
  | .call (.mk id _ _ args _ _ _) =>
    rw [valueMarks]
    refine List.forall_mem_cons.mpr ⟨List.prefix_refl _, fun m hm => ?_⟩
    exact (List.prefix_append _ _).trans (valuesMarks_around (around ++ [id]) args m hm)
  | .not operand | .elementQuery _ _ (some operand) =>
    rw [valueMarks]
    exact valueMarks_around around operand
  | .binary _ left right | .contains left right =>
    rw [valueMarks]
    exact List.forall_mem_append.mpr ⟨valueMarks_around around left, valueMarks_around around right⟩
  | .script _ args | .construct _ args =>
    rw [valueMarks]
    exact valuesMarks_around around args
  | .verbatim _ | .elementQuery _ _ none | .literal _ | .variable _ | .driver | .element _
  | .pageQuery _ => simp [valueMarks]

theorem valuesMarks_around (around : List String) (vs : List Value) :
    ∀ m ∈ valuesMarks around vs, around <+: m.1 := by
  match vs with
  | [] => simp [valuesMarks]
  | v :: rest =>
    rw [valuesMarks]
    exact List.forall_mem_append.mpr ⟨valueMarks_around around v, valuesMarks_around around rest⟩

end

theorem filterMap_valuesMarks_of_demoted {around : List String} (h : around.any demoted = true)
    (vs : List Value) : (valuesMarks around vs).filterMap (demotePlaced demoted) = [] := by
  rw [List.filterMap_eq_nil_iff]
  intro m hm
  obtain ⟨_, hmore⟩ := valuesMarks_around around vs m hm
  rw [demotePlaced, if_pos]
  rw [← hmore, List.any_append, h, Bool.true_or]

mutual

theorem valueMarks_demoteValue {around : List String} (h : around.any demoted = false) (v : Value) :
    valueMarks around (demoteValue demoted v) =
      (valueMarks around v).filterMap (demotePlaced demoted) := by
  match v with
  | .call (.mk id _ _ args _ _ _) =>
    have hhead : ∀ m, demotePlaced demoted (around, m) = some (around, demoteMark demoted m) := by
      intro m
      rw [demotePlaced, h]
      rfl
    rw [valueMarks, List.filterMap_cons_some (hhead _), demoteValue]
    by_cases hid : demoted id
    · have hinside : (around ++ [id]).any demoted = true := by simp [hid]
      rw [if_pos hid, filterMap_valuesMarks_of_demoted hinside, valueMarks]
      simp [demoteMark, Call.id, Call.sourceText, hid]
    · have hinside : (around ++ [id]).any demoted = false := by simp [h, hid]
      rw [if_neg hid, valueMarks, valuesMarks_demoteValues hinside args]
      simp [demoteMark, demoteCall, Call.id, Call.withArgs, Call.args, hid]
  | .not operand | .elementQuery _ _ (some operand) =>
    rw [demoteValue, valueMarks, valueMarks, valueMarks_demoteValue h operand]
  | .binary _ left right | .contains left right =>
    rw [demoteValue, valueMarks, valueMarks, valueMarks_demoteValue h left,
      valueMarks_demoteValue h right, List.filterMap_append]
  | .script _ args | .construct _ args =>
    rw [demoteValue, valueMarks, valueMarks, valuesMarks_demoteValues h args]
  | .verbatim _ =>
    rw [demoteValue, valueMarks]
    simp [demotePlaced, demoteMark, h]
  | .elementQuery _ _ none | .literal _ | .variable _ | .driver | .element _ | .pageQuery _ =>
    simp [demoteValue, valueMarks]

theorem valuesMarks_demoteValues {around : List String} (h : around.any demoted = false)
    (vs : List Value) : valuesMarks around (demoteValues demoted vs) =
      (valuesMarks around vs).filterMap (demotePlaced demoted) := by
  match vs with
  | [] => rfl
  | v :: rest =>
    rw [demoteValues, valuesMarks, valuesMarks, valueMarks_demoteValue h v,
      valuesMarks_demoteValues h rest, List.filterMap_append]

end

theorem demoteValues_append (vs ws : List Value) :
    demoteValues demoted (vs ++ ws) = demoteValues demoted vs ++ demoteValues demoted ws := by
  induction vs with
  | nil => rfl
  | cons v _ ih => rw [List.cons_append, demoteValues, ih, demoteValues, List.cons_append]

theorem toList_map_demoteValue (v : Option Value) :
    (v.map (demoteValue demoted)).toList = demoteValues demoted v.toList := by
  cases v <;> rfl

/-- Demotion reaches every value of an action; a call statement apart, which may become a step known
by its text. -/
theorem values_demoteAction (a : Action) (h : ∀ d, a ≠ .delegate d) :
    (demoteAction demoted a).values = demoteValues demoted a.values := by
  cases a with
  | delegate d => exact absurd rfl (h d)
  | assert a =>
    rw [demoteAction, values, values, demoteValues, demoteValues_append, toList_map_demoteValue,
      toList_map_demoteValue]
  | ret _ p => rw [demoteAction, values, values, toList_map_demoteValue]
  | _ =>
    rfl

theorem ownMarks_demoteAction (a : Action) :
    ownMarks (demoteAction demoted a) = (ownMarks a).filterMap (demotePlaced demoted) := by
  cases a with
  | delegate d =>
    have hhead : ∀ m, demotePlaced demoted ([], m) = some ([], demoteMark demoted m) := fun _ => rfl
    rw [ownMarks, List.filterMap_cons_some (hhead _), demoteAction]
    by_cases hid : demoted d.call.id
    · have hinside : [d.call.id].any demoted = true := by simp [hid]
      rw [if_pos hid, filterMap_valuesMarks_of_demoted hinside, ownMarks]
      simp [demoteMark, hid]
    · have hinside : [d.call.id].any demoted = false := by simp [hid]
      rw [if_neg hid, ownMarks, ← valuesMarks_demoteValues hinside]
      simp [demoteMark, demoteCall, hid]
  | verbatim _ _ p => rfl
  | _ =>
    refine Eq.trans ?_ (valuesMarks_demoteValues rfl _)
    rw [← values_demoteAction _ (by simp)]
    rfl

mutual

theorem actionMarks_demoteAction (a : Action) :
    actionMarks (demoteAction demoted a) = (actionMarks a).filterMap (demotePlaced demoted) := by
  cases a with
  | branch condition thenBody elseBody p =>
    rw [demoteAction, actionMarks, actionMarks, bodyMarks_demoteActions thenBody,
      bodyMarks_demoteActions elseBody, List.filterMap_append, List.filterMap_append,
      ← valuesMarks_demoteValues rfl [condition], demoteValues, demoteValues]
  | probe body fallback p =>
    rw [demoteAction, actionMarks, actionMarks, bodyMarks_demoteActions body,
      bodyMarks_demoteActions fallback, List.filterMap_append]
  | delegate d =>
    have hdemoted : actionMarks (demoteAction demoted (.delegate d)) =
        ownMarks (demoteAction demoted (.delegate d)) := by
      rw [demoteAction]
      split <;> simp [actionMarks]
    rw [hdemoted, actionMarks, ownMarks_demoteAction]
    all_goals simp
  | _ =>
    simp only [demoteAction, actionMarks]
    rw [← ownMarks_demoteAction, demoteAction]

/-- **Demotion of a body is a map on its marks**: what is inside of a demoted call is gone, a
demoted call is its text, and the rest stays in place. -/
theorem bodyMarks_demoteActions (body : List Action) :
    bodyMarks (demoteActions demoted body) = (bodyMarks body).filterMap (demotePlaced demoted) := by
  match body with
  | [] => rfl
  | a :: rest =>
    rw [demoteActions, bodyMarks, bodyMarks, actionMarks_demoteAction a,
      bodyMarks_demoteActions rest, List.filterMap_append]

end

theorem exists_of_mem_calls_demoteActions {body : List Action} {c' : Call}
    (h : c' ∈ calls (demoteActions demoted body)) :
    ∃ c ∈ calls body, demoted c.id = false ∧ c' = demoteCall demoted c := by
  rw [calls_eq_marks, bodyMarks_demoteActions] at h
  obtain ⟨_, hm', hc'⟩ := List.mem_filterMap.mp h
  obtain ⟨⟨_, m⟩, hm, hdemote⟩ := List.mem_filterMap.mp hm'
  rw [demotePlaced] at hdemote
  split at hdemote
  · cases hdemote
  · cases hdemote
    rw [calls_eq_marks]
    cases m with
    | statement c | operand c =>
      simp only [demoteMark] at hc'
      split at hc'
      · cases hc'
      · rename_i hid
        cases hc'
        exact ⟨c, List.mem_filterMap.mpr ⟨_, hm, rfl⟩, by simpa using hid, rfl⟩
    | step text | text text => cases hc'

end Demote

end TestMigration.Linking
