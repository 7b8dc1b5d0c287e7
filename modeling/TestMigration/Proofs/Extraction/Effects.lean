import TestMigration.Extraction.Unit
/-!
# What extraction can change

As for rendering, what each function leaves alone is said once, as `Keeps R x`: whatever the start,
the states before and after a step `x` stand in the relation `R`. If `R` goes through steps that
follow each other (`Composable`), most of the statements are found as instances.

The relation used here is `Unrecorded`: the recorded page objects stay as they are. All that
expressions do is within it, for any readers of smaller expressions that are, and so is what
statements do but for those that give a variable its value. The larger functions are trees of tests,
matches and steps, and their proofs go down the tree.
-/

namespace TestMigration.Extraction

open Syntax TestMigration.Action Text

/-! ### Runs -/

/-- How a step from a state ends, and the state it leaves. -/
def Extract.runFrom {α : Type} (x : Extract α) (c : Context) (s : State) : Except Stop α × State :=
  StateT.run (ExceptT.run (ReaderT.run x c)) s

section Run

variable {α β : Type} {c : Context} {s : State}
variable {x : Extract α} {f : α → Extract β} {s' : State}

theorem runFrom_bind (x : Extract α) (f : α → Extract β) :
    (x >>= f).runFrom c s = match x.runFrom c s with
      | (.ok a, s') => (f a).runFrom c s'
      | (.error stop, s') => (.error stop, s') := by
  rw [Extract.runFrom, ReaderT.run_bind, ExceptT.run_bind, StateT.run_bind, Extract.runFrom]
  rcases StateT.run (ExceptT.run (ReaderT.run x c)) s with ⟨_ | a, s'⟩ <;> rfl

theorem runFrom_tryCatch (x : Extract α) (f : Stop → Extract α) :
    (tryCatch x f).runFrom c s = match x.runFrom c s with
      | (.ok a, s') => (.ok a, s')
      | (.error stop, s') => (f stop).runFrom c s' := by
  simp only [Extract.runFrom, ReaderT.run, ExceptT.run, StateT.run, tryCatch, tryCatchThe,
    MonadExceptOf.tryCatch, ExceptT.tryCatch, ExceptT.mk, Bind.bind, StateT.bind]
  rcases x c s with ⟨_ | a, s'⟩ <;> rfl

theorem runFrom_read : (read : Extract Context).runFrom c s = (.ok c, s) := rfl

theorem runFrom_get : (get : Extract State).runFrom c s = (.ok s, s) := rfl

theorem runFrom_modify (f : State → State) :
    (modify f : Extract PUnit).runFrom c s = (.ok (), f s) := rfl

theorem runFrom_withReader (f : Context → Context) (x : Extract α) :
    (withReader f x : Extract α).runFrom c s = x.runFrom (f c) s := rfl

theorem runFrom_bind_ok {a : α}
    (h : x.runFrom c s = (.ok a, s')) : (x >>= f).runFrom c s = (f a).runFrom c s' := by
  rw [runFrom_bind, h]

theorem runFrom_bind_error {stop : Stop}
    (h : x.runFrom c s = (.error stop, s')) : (x >>= f).runFrom c s = (.error stop, s') := by
  rw [runFrom_bind, h]

theorem exists_of_runFrom_bind {b : β} {s'' : State} (h : (x >>= f).runFrom c s = (.ok b, s'')) :
    ∃ a s', x.runFrom c s = (.ok a, s') ∧ (f a).runFrom c s' = (.ok b, s'') := by
  rw [runFrom_bind] at h
  rcases hx : x.runFrom c s with ⟨_ | a, s'⟩
  · rw [hx] at h
    cases h
  · rw [hx] at h
    exact ⟨a, s', rfl, h⟩

end Run

/-! ### Relations between states -/

/-- A relation that goes through steps that follow each other. -/
class Composable (R : State → State → Prop) : Prop where
  refl (s : State) : R s s
  trans {s s' s'' : State} : R s s' → R s' s'' → R s s''

/-- What a step does to the state is within a relation. -/
class Keeps {α : Type} (R : State → State → Prop) (x : Extract α) : Prop where
  out (c : Context) (s : State) : R s (x.runFrom c s).2

section Keeps

variable {α β : Type} {R : State → State → Prop}
variable {x : Extract α}

theorem Keeps.of_runFrom [h : Keeps R x] {c : Context} {s s' : State}
    {r : Except Stop α} (hrun : x.runFrom c s = (r, s')) : R s s' := by
  have := h.out c s
  rwa [hrun] at this

variable [Composable R]

instance keeps_pure (a : α) : Keeps R (pure a : Extract α) := ⟨fun _ s => Composable.refl s⟩

instance keeps_read : Keeps R (read : Extract Context) := ⟨fun _ s => Composable.refl s⟩

instance keeps_get : Keeps R (get : Extract State) := ⟨fun _ s => Composable.refl s⟩

instance keeps_refuse (cause : Cause) : Keeps R (refuse cause : Extract α) :=
  ⟨fun _ s => Composable.refl s⟩

instance (why : Halt) : Keeps R (halt why : Extract α) := ⟨fun _ s => Composable.refl s⟩

theorem Keeps.andThen {f : α → Extract β} (hx : Keeps R x)
    (hf : ∀ a, Keeps R (f a)) : Keeps R (x >>= f) := by
  refine ⟨fun c s => ?_⟩
  rcases hrun : x.runFrom c s with ⟨_ | a, s'⟩
  · rw [runFrom_bind_error hrun]
    exact hx.of_runFrom hrun
  · rw [runFrom_bind_ok hrun]
    exact Composable.trans (hx.of_runFrom hrun) ((hf a).out c s')

instance keeps_bind (x : Extract α) (f : α → Extract β) [hx : Keeps R x] [hf : ∀ a, Keeps R (f a)] :
    Keeps R (x >>= f) := hx.andThen hf

instance keeps_map (f : α → β) (x : Extract α) [hx : Keeps R x] : Keeps R (f <$> x) := by
  rw [map_eq_pure_bind]
  infer_instance

instance keeps_tryCatch (x : Extract α) (f : Stop → Extract α) [hx : Keeps R x]
    [hf : ∀ stop, Keeps R (f stop)] : Keeps R (tryCatch x f) := by
  refine ⟨fun c s => ?_⟩
  rw [runFrom_tryCatch]
  rcases hrun : x.runFrom c s with ⟨stop | a, s'⟩
  · exact Composable.trans (hx.of_runFrom hrun) ((hf stop).out c s')
  · exact hx.of_runFrom hrun

instance keeps_ite (p : Prop) [Decidable p] (x y : Extract α) [hx : Keeps R x] [hy : Keeps R y] :
    Keeps R (if p then x else y) := by
  split
  · exact hx
  · exact hy

instance keeps_forM (l : List β) (f : β → Extract PUnit) [hf : ∀ b, Keeps R (f b)] :
    Keeps R (l.forM f) := by
  induction l with
  | nil => exact keeps_pure _
  | cons b _ ih => exact (hf b).andThen fun _ => ih

instance (l : List β) (f : β → Extract α) [hf : ∀ b, Keeps R (f b)] : Keeps R (l.mapM f) := by
  induction l with
  | nil =>
    rw [List.mapM_nil]
    infer_instance
  | cons b =>
    rw [List.mapM_cons]
    infer_instance

instance (o : Option β) (f : β → Extract α) [hf : ∀ b, Keeps R (f b)] :
    Keeps R (o.mapM f) := by
  cases o with
  | none => exact keeps_pure none
  | some b => exact keeps_map some (f b)

end Keeps

/-! ### Page objects -/

/-- The page objects that have been recorded stay as they are. -/
def Unrecorded (s s' : State) : Prop := s'.context.pageObjects = s.context.pageObjects

instance : Composable Unrecorded where
  refl _ := rfl
  trans h h' := h'.trans h

/-- Readers of expressions that record no page objects. -/
class Unrecording (r : Readers) : Prop where
  value (scope : Nat) (e : Expr) : Keeps Unrecorded (r.value scope e)
  element (scope : Nat) (p : Provenance) (e : Expr) : Keeps Unrecorded (r.element scope p e)
  locator (scope : Nat) (e : Expr) : Keeps Unrecorded (r.locator scope e)

attribute [instance] Unrecording.value Unrecording.element Unrecording.locator

section Unrecorded

variable (span : Span) (scope : Nat) (name : String) (e : Expr)

theorem unrecorded_modify {f : State → State} (h : ∀ s, Unrecorded s (f s)) :
    Keeps Unrecorded (modify f : Extract PUnit) := ⟨fun _ s => h s⟩

theorem unrecorded_modifyContext {f : TestContext → TestContext}
    (h : ∀ c, (f c).pageObjects = c.pageObjects) : Keeps Unrecorded (modifyContext f) :=
  ⟨fun _ s => h s.context⟩

instance : Keeps Unrecorded (provenanceOf span) := by
  unfold provenanceOf; infer_instance

instance (d : Diagnostic) : Keeps Unrecorded (report d) :=
  unrecorded_modify fun _ => rfl

instance (r : Remark) : Keeps Unrecorded (remark r span) := by
  unfold remark; infer_instance

instance : Keeps Unrecorded (openScope scope) := ⟨fun _ _ => rfl⟩

instance (b : Binding) :
    Keeps Unrecorded (define scope name b) := unrecorded_modify fun _ => rfl

instance (actions : List Action) : Keeps Unrecorded (queue actions) :=
  unrecorded_modify fun _ => rfl

instance : Keeps Unrecorded (addDriver name) :=
  unrecorded_modifyContext fun _ => rfl

instance : Keeps Unrecorded (newRef name) := ⟨fun _ _ => rfl⟩

instance {α : Type} (question : State → α) : Keeps Unrecorded (ask question) := by
  unfold ask; infer_instance

instance (v : Scalar) : Keeps Unrecorded (floatOf v) := by
  unfold floatOf
  split
  · split <;> infer_instance
  · infer_instance
  · infer_instance
  · split <;> infer_instance
  · infer_instance

instance : Keeps Unrecorded (number? e) := by
  unfold number?
  split
  · infer_instance
  · refine .andThen inferInstance fun s => ?_
    split <;> infer_instance
  · infer_instance

instance : Keeps Unrecorded (seconds? e) := by
  unfold seconds?
  split
  · split
    · split <;> infer_instance
    · infer_instance
  · infer_instance

instance (args : List Expr) : Keeps Unrecorded (timeoutOfNew? args) := by
  unfold timeoutOfNew?
  split <;> infer_instance

end Unrecorded

/-! ### Expressions -/

section Expressions

variable {r : Readers} [Unrecording r]
variable (scope : Nat) (e : Expr) (args : List Expr) (target : Option Expr) (method text : String)
variable (prov : Provenance)

instance unrecorded_locatorOf : Keeps Unrecorded (locatorOf r scope e) := by
  unfold locatorOf
  dsimp only
  split
  · split
    · split <;> infer_instance
    · refine .andThen inferInstance fun s => ?_
      split <;> infer_instance
  · refine .andThen inferInstance fun s => ?_
    split <;> infer_instance

instance : Keeps Unrecorded (scriptOf r scope args) := by
  unfold scriptOf
  split <;> infer_instance

instance : Keeps Unrecorded (callTarget? target method scope) := by
  refine .andThen inferInstance fun c => ?_
  split
  · infer_instance
  · infer_instance
  · split
    · infer_instance
    · refine .andThen inferInstance fun s => ?_
      split <;> infer_instance

instance :
    Keeps Unrecorded (modify fun s => { s with calls := s.calls + 1 } : Extract PUnit) :=
  unrecorded_modify fun _ => rfl

instance : Keeps Unrecorded (projectCall? r scope target method args text) := by
  refine .andThen inferInstance fun found => ?_
  split <;> infer_instance

instance : Keeps Unrecorded (waitSeconds scope target) := by
  refine .andThen inferInstance fun s => ?_
  split
  · infer_instance
  · split <;> infer_instance
  · infer_instance

instance (b : LambdaBody) : Keeps Unrecorded (lambdaResult b) := by
  unfold lambdaResult
  split <;> infer_instance

instance (seconds : Float) (params : List String) (body : LambdaBody) :
    Keeps Unrecorded (scriptWait r scope prov seconds params body text) := by
  refine .andThen inferInstance fun result => Keeps.andThen inferInstance fun inner =>
    Keeps.andThen inferInstance fun _ => ?_
  dsimp only
  repeat' first
    | infer_instance
    | split

instance : Keeps Unrecorded (waitOf r scope prov target args) := by
  unfold waitOf
  split
  · refine .andThen inferInstance fun seconds => ?_
    split
    · infer_instance
    · split
      · infer_instance
      · split
        · infer_instance
        · split
          · infer_instance
          · infer_instance
    · infer_instance
  · infer_instance

instance (e : Option Expr) :
    Keeps Unrecorded (requiredElement r scope prov e) := by
  unfold requiredElement
  split <;> infer_instance

instance : Keeps Unrecorded (lookupParent r scope prov target) := by
  unfold lookupParent; infer_instance

instance unrecorded_elementOf : Keeps Unrecorded (elementOf r scope prov e) := by
  refine .andThen inferInstance fun s => ?_
  split
  · split <;> infer_instance
  · split
    · split
      · split
        · infer_instance
        · split
          · infer_instance
          · split
            · refine .andThen inferInstance fun w => Keeps.andThen inferInstance fun _ => ?_
              split <;> infer_instance
            · infer_instance
      · infer_instance
    · infer_instance

instance (name : String) : Keeps Unrecorded (nameValue scope name e) := by
  refine .andThen inferInstance fun s => ?_
  split
  · infer_instance
  · split
    · split <;> infer_instance
    · split <;> infer_instance

instance (call : Expr) (span : Span) :
    Keeps Unrecorded (callValue r scope call target method args text span) := by
  refine .andThen inferInstance fun prov => Keeps.andThen inferInstance fun s => ?_
  dsimp only
  repeat' first
    | infer_instance
    | split
    | refine .andThen inferInstance fun _ => ?_

instance (op : String) (operand : Value) :
    Keeps Unrecorded (unaryValue op operand) := by
  unfold unaryValue
  split
  · infer_instance
  · split
    · infer_instance
    · split <;> infer_instance
  · infer_instance

instance unrecorded_valueOf : Keeps Unrecorded (valueOf r scope e) := by
  unfold valueOf
  split
  · infer_instance
  · infer_instance
  · split <;> infer_instance
  all_goals infer_instance

end Expressions

instance (n : Nat) : Unrecording (readers n) := by
  induction n with
  | zero =>
    exact ⟨fun _ _ => keeps_refuse _, fun _ _ _ => keeps_refuse _, fun _ _ => keeps_refuse _⟩
  | succ n =>
    exact ⟨fun _ _ => unrecorded_valueOf _ _, fun _ _ _ => unrecorded_elementOf _ _ _,
      fun _ _ => unrecorded_locatorOf _ _⟩

/-! ### Statements -/

section Statements

variable {r : Readers} [Unrecording r]
variable (scope : Nat) (prov : Provenance) (name typeName text method : String) (e init call : Expr)
variable (declare : Bool) (target : Option Expr) (args : List Expr) (element : ElementRef)

instance : Keeps Unrecorded (boundElement r scope prov name e) := by
  unfold boundElement
  dsimp only
  split
  · infer_instance
  · infer_instance

instance :
    Keeps Unrecorded (bindWait r scope prov name typeName declare target args) := by
  refine .andThen inferInstance fun w => ?_
  dsimp only
  split <;> infer_instance

instance : Keeps Unrecorded (bindValue r scope prov name typeName init declare) := by
  unfold bindValue; infer_instance

instance : Keeps Unrecorded (bindCall? r scope prov name typeName declare e) := by
  unfold bindCall?
  split
  · refine .andThen inferInstance fun s => ?_
    split
    · infer_instance
    · refine .andThen inferInstance fun call => ?_
      split <;> infer_instance
  · infer_instance

instance :
    Keeps Unrecorded (bindElementOrValue r scope prov name typeName init declare) := by
  unfold bindElementOrValue
  dsimp only
  repeat' first
    | infer_instance
    | split
    | refine .andThen inferInstance fun _ => ?_

instance : Keeps Unrecorded (driverChain? r scope prov call args text) := by
  unfold driverChain?
  dsimp only
  repeat' first
    | infer_instance
    | split
    | refine .andThen inferInstance fun _ => ?_

instance (arg : Expr) : Keeps Unrecorded (typed r scope prov element arg) := by
  unfold typed
  split
  · split
    · split <;> infer_instance
    · infer_instance
  · infer_instance

instance : Keeps Unrecorded (interactions r scope prov element method args) := by
  unfold interactions; infer_instance

instance (last : Option ElementRef)
    (chain : List (String × List Expr)) :
    Keeps Unrecorded (pointerSteps r scope prov last chain) := by
  induction chain generalizing last with
  | nil => unfold pointerSteps; infer_instance
  | cons =>
    unfold pointerSteps
    dsimp only
    repeat' first
      | infer_instance
      | split
      | refine .andThen inferInstance fun _ => ?_

instance : Keeps Unrecorded (pointerChain? r scope prov call) := by
  unfold pointerChain?; infer_instance

instance : Keeps Unrecorded (dropdown r scope prov target) := by
  refine .andThen inferInstance fun s => ?_
  dsimp only
  split
  · split
    · infer_instance
    · split <;> infer_instance
  · split <;> infer_instance
  · infer_instance

instance (kind : String) : Keeps Unrecorded
    (assertion r scope prov method kind args) := by
  unfold assertion
  dsimp only
  repeat' first
    | infer_instance
    | split
    | refine .andThen inferInstance fun _ => ?_

instance : Keeps Unrecorded (driverStatement r scope prov method args) := by
  unfold driverStatement
  split <;> infer_instance

instance :
    Keeps Unrecorded (otherStatement r scope prov call target method args text) := by
  refine .andThen inferInstance fun s => ?_
  repeat' first
    | infer_instance
    | split
    | refine .andThen inferInstance fun _ => ?_

instance :
    Keeps Unrecorded (callStatement r scope prov call target method args text) := by
  unfold callStatement
  dsimp only
  split
  · infer_instance
  · infer_instance
  · infer_instance
  · refine .andThen inferInstance fun s => ?_
    split
    · infer_instance
    · refine .andThen inferInstance fun found => ?_
      split <;> infer_instance

end Statements

end TestMigration.Extraction
