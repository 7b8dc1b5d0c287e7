import TestMigration.Rendering.File
/-!
# What rendering can change

Rendering reads an environment, may stop, and keeps what it changed before a stop. What each of its
functions leaves alone is said once, as `Keeps R x`: whatever the start, the state before a step
`x`, the stop it ends with, if any, and the state after it stand in the relation `R`. If `R` goes
through steps that follow each other (`Composable`), the statements about functions are found from
those about their parts, as instances.

The relations used are, from the strongest to the weakest:

* `Plain` – the frame and what counts waits stay, and no value lacks a target form;
* `Quiet` – the frame and what counts waits stay;
* `Calm` – the same, but the step may declare variables;
* `Steady` – what counts waits stays;
* `Bounded` – there are not more new fragments of waits than new waits.
-/

namespace TestMigration.Rendering

open TestMigration.Action Text Profile

/-! ### Runs -/

section Run

variable {α β : Type} {env : Env} {s : State}
variable {x : Render α} {f : α → Render β} {s' : State}

theorem run_bind (x : Render α) (f : α → Render β) : (x >>= f).run env s = match x.run env s with
      | (.ok a, s') => (f a).run env s'
      | (.error stop, s') => (.error stop, s') := by
  rw [Render.run, ReaderT.run_bind, ExceptT.run_bind, StateT.run_bind, Render.run]
  rcases StateT.run (ExceptT.run (ReaderT.run x env)) s with ⟨_ | a, s'⟩ <;> rfl

theorem run_tryCatch (x : Render α) (f : Stop → Render α) :
    (tryCatch x f).run env s = match x.run env s with
      | (.ok a, s') => (.ok a, s')
      | (.error stop, s') => (f stop).run env s' := by
  simp only [Render.run, ReaderT.run, ExceptT.run, StateT.run, tryCatch, tryCatchThe,
    MonadExceptOf.tryCatch, ExceptT.tryCatch, ExceptT.mk, Bind.bind, StateT.bind]
  rcases x env s with ⟨_ | a, s'⟩ <;> rfl

theorem run_read : (read : Render Env).run env s = (.ok env, s) := rfl

theorem run_profile : profile.run env s = (.ok env.profile, s) := rfl

theorem run_phrases : phrases.run env s = (.ok env.profile.phrases, s) := rfl

theorem run_frame : frame.run env s = (.ok s.frame, s) := rfl

theorem run_bind_ok {a : α} (h : x.run env s = (.ok a, s')) :
    (x >>= f).run env s = (f a).run env s' := by
  rw [run_bind, h]

theorem run_bind_error {stop : Stop}
    (h : x.run env s = (.error stop, s')) : (x >>= f).run env s = (.error stop, s') := by
  rw [run_bind, h]

theorem exists_of_run_bind {b : β} {s'' : State} (h : (x >>= f).run env s = (.ok b, s'')) :
    ∃ a s', x.run env s = (.ok a, s') ∧ (f a).run env s' = (.ok b, s'') := by
  rw [run_bind] at h
  rcases hx : x.run env s with ⟨_ | a, s'⟩
  · rw [hx] at h
    cases h
  · rw [hx] at h
    exact ⟨a, s', rfl, h⟩

theorem run_liftHalt {x : Except Halt α} {a : α}
    (hrun : (liftHalt x).run env s = (.ok a, s')) : x = .ok a ∧ s' = s := by
  cases x with
  | ok b =>
    cases hrun
    exact ⟨rfl, rfl⟩
  | error => cases hrun

theorem eq_of_run_resolveCall {c : Call} {position : Option Position} {key : MethodKey}
    (hrun : (resolveCall c position).run env s = (.ok key, s')) :
    env.model.resolve? c = some key ∧ s' = s := by
  unfold resolveCall at hrun
  rw [run_bind_ok run_read] at hrun
  cases hfound : env.model.resolve? c with
  | some =>
    rw [hfound] at hrun
    cases hrun
    exact ⟨rfl, rfl⟩
  | none =>
    rw [hfound] at hrun
    cases hrun

theorem exists_of_run_callTarget {c : Call} {r : SourceUnit × Method}
    (hrun : (callTarget c).run env s = (.ok r, s')) : env.strategy ≠ .inline ∧
      ∃ key, env.model.resolve? c = some key ∧ env.model.unit key.unitName = .ok r.1 ∧
        env.model.method key = .ok r.2 := by
  unfold callTarget at hrun
  rw [run_bind_ok run_read] at hrun
  by_cases hinline : env.strategy = .inline
  · rw [if_pos hinline] at hrun
    cases hrun
  · rw [if_neg hinline] at hrun
    obtain ⟨key, _, hkey, hrun⟩ := exists_of_run_bind hrun
    obtain ⟨_, _, htarget, hrun⟩ := exists_of_run_bind hrun
    obtain ⟨_, _, hmethod, hrun⟩ := exists_of_run_bind hrun
    cases hrun
    exact ⟨hinline, key, (eq_of_run_resolveCall hkey).1, (run_liftHalt htarget).1,
      (run_liftHalt hmethod).1⟩

end Run

/-! ### Relations between states -/

/-- The stop that a step ends with, if it ends with one. -/
def stopOf {α : Type} : Except Stop α → Option Stop
  | .ok _ => none
  | .error stop => some stop

/-- What a step may do, from the state before to its stop and the state behind. -/
abbrev Effect := State → Option Stop → State → Prop

/-- A way to splice calls. -/
abbrev Splicing := Delegation → Render Unit

/-- A relation that goes through steps that follow each other. A step that stops may be followed by
one that deals with the stop. -/
class Composable (R : Effect) : Prop where
  refl (s : State) : R s none s
  trans {s s' s'' : State} {e e' : Option Stop} : R s e s' → R s' e' s'' → R s e' s''

/-- What a step does to the state, and how it ends, is within a relation. -/
class Keeps {α : Type} (R : Effect) (x : Render α) : Prop where
  out (env : Env) (s : State) : R s (stopOf (x.run env s).1) (x.run env s).2

section Keeps

variable {α β : Type} {R : Effect}
variable {x : Render α}

theorem Keeps.of_run [h : Keeps R x] {env : Env} {s s' : State} {r : Except Stop α}
    (hrun : x.run env s = (r, s')) : R s (stopOf r) s' := by
  have := h.out env s
  rwa [hrun] at this

theorem Keeps.mono {R' : Effect}
    (hR : ∀ {s e s'}, R s e s' → R' s e s') (h : Keeps R x) : Keeps R' x :=
  ⟨fun env s => hR (h.out env s)⟩

variable [Composable R]

instance keeps_pure (a : α) : Keeps R (pure a : Render α) := ⟨fun _ s => Composable.refl s⟩

instance keeps_read : Keeps R (read : Render Env) := ⟨fun _ s => Composable.refl s⟩

instance keeps_get : Keeps R (get : Render State) := ⟨fun _ s => Composable.refl s⟩

theorem Keeps.andThen {f : α → Render β} (hx : Keeps R x)
    (hf : ∀ a, Keeps R (f a)) : Keeps R (x >>= f) := by
  refine ⟨fun env s => ?_⟩
  rcases hrun : x.run env s with ⟨_ | a, s'⟩
  · rw [run_bind_error hrun]
    exact hx.of_run hrun
  · rw [run_bind_ok hrun]
    exact Composable.trans (hx.of_run hrun) ((hf a).out env s')

instance keeps_bind (x : Render α) (f : α → Render β) [hx : Keeps R x] [hf : ∀ a, Keeps R (f a)] :
    Keeps R (x >>= f) := hx.andThen hf

instance keeps_ite (c : Prop) [Decidable c] (x y : Render α) [hx : Keeps R x] [hy : Keeps R y] :
    Keeps R (if c then x else y) := by
  split
  · exact hx
  · exact hy

instance keeps_forM (l : List β) (f : β → Render PUnit) [hf : ∀ b, Keeps R (f b)] :
    Keeps R (l.forM f) := by
  induction l with
  | nil => exact keeps_pure _
  | cons b _ ih => exact (hf b).andThen fun _ => ih

end Keeps

def waitEntries (s : Session) : Nat := s.trace.countP (·.kind == .wait)

/-- There are not more new fragments of waits than new waits. -/
def Bounded (s : State) (_ : Option Stop) (s' : State) : Prop :=
  waitEntries s'.session + s.session.waits ≤ s'.session.waits + waitEntries s.session

/-- What counts waits stays as it is. -/
structure Steady (s : State) (e : Option Stop) (s' : State) : Prop where
  waits : s'.session.waits = s.session.waits
  entries : waitEntries s'.session = waitEntries s.session

/-- What counts waits stays, and the frame but for declared variables. -/
structure Calm (s : State) (e : Option Stop) (s' : State) : Prop extends Steady s e s' where
  frame : ∃ declared, s'.frame = { s.frame with declared }

/-- What counts waits and the frame stay as they are. -/
structure Quiet (s : State) (e : Option Stop) (s' : State) : Prop extends Steady s e s' where
  frame : s'.frame = s.frame

/-- No value lacks a target form. -/
def Translated (_ : State) (e : Option Stop) (_ : State) : Prop :=
  ∀ text, e ≠ some (.untranslatable text)

/-- What counts waits and the frame stay, and no value lacks a target form. -/
structure Plain (s : State) (e : Option Stop) (s' : State) : Prop extends Quiet s e s' where
  translated : Translated s e s'

section Relations

variable {s' : State} {e : Option Stop}

theorem Steady.bounded {s : State} (h : Steady s e s') : Bounded s e s' := by
  have hwaits := h.waits
  have hentries := h.entries
  rw [Bounded]
  omega

theorem Quiet.calm {s : State} (h : Quiet s e s') : Calm s e s' :=
  { h.toSteady with frame := ⟨s.frame.declared, h.frame⟩ }

instance : Composable Bounded where
  refl s := Nat.le_of_eq (Nat.add_comm _ _)
  trans h h' := by
    rw [Bounded] at h h' ⊢
    omega

instance : Composable Steady where
  refl _ := ⟨rfl, rfl⟩
  trans h h' := ⟨h'.waits.trans h.waits, h'.entries.trans h.entries⟩

instance : Composable Calm where
  refl _ := ⟨⟨rfl, rfl⟩, ⟨_, rfl⟩⟩
  trans h h' := by
    obtain ⟨_, hframe⟩ := h.frame
    obtain ⟨declared, hframe'⟩ := h'.frame
    exact ⟨Composable.trans h.toSteady h'.toSteady, declared, by rw [hframe', hframe]⟩

instance : Composable Quiet where
  refl _ := ⟨⟨rfl, rfl⟩, rfl⟩
  trans h h' := ⟨Composable.trans h.toSteady h'.toSteady, h'.frame.trans h.frame⟩

instance : Composable Translated where
  refl _ _ := nofun
  trans _ h' := h'

instance : Composable Plain where
  refl s := ⟨Composable.refl s, nofun⟩
  trans h h' := ⟨Composable.trans h.toQuiet h'.toQuiet, h'.translated⟩

variable {α : Type} {x : Render α}

instance (priority := low) [h : Keeps Steady x] : Keeps Bounded x := h.mono Steady.bounded

instance (priority := low) [h : Keeps Calm x] : Keeps Steady x := h.mono Calm.toSteady

instance (priority := low) [h : Keeps Quiet x] : Keeps Calm x := h.mono Quiet.calm

/-- A relation that allows plain steps. -/
class Tolerant (R : Effect) : Prop where
  plain {s s' : State} {e : Option Stop} : Plain s e s' → R s e s'

instance (priority := low) {R : Effect} [Tolerant R] [h : Keeps Plain x] : Keeps R x :=
  h.mono Tolerant.plain

instance : Tolerant Plain := ⟨id⟩

instance : Tolerant Quiet := ⟨Plain.toQuiet⟩

instance : Tolerant Calm := ⟨fun h => h.toQuiet.calm⟩

instance : Tolerant Steady := ⟨fun h => h.toSteady⟩

instance : Tolerant Bounded := ⟨fun h => h.toSteady.bounded⟩

instance : Tolerant Translated := ⟨Plain.translated⟩

/-- A relation that does not look at the code. -/
class CodeFree (R : Effect) : Prop where
  code {s s' : State} {e : Option Stop} (c c' : Code) :
    R s e s' → R { s with code := c } e { s' with code := c' }

instance : CodeFree Bounded := ⟨fun _ _ h => h⟩

instance : CodeFree Steady := ⟨fun _ _ h => ⟨h.waits, h.entries⟩⟩

instance : CodeFree Translated := ⟨fun _ _ h => h⟩

end Relations

/-! ### Stopping and writing -/

section Basic

variable {α : Type}

instance keeps_refuse (fault : Fault) (position : Option Position) :
    Keeps Plain (refuse fault position : Render α) :=
  ⟨fun _ _ => ⟨⟨⟨rfl, rfl⟩, rfl⟩, nofun⟩⟩

instance keeps_refuseAt (p : Provenance) (fault : Fault) :
    Keeps Plain (refuseAt p fault : Render α) := keeps_refuse fault _

instance keeps_halted (h : Halt) : Keeps Plain (throw (.halted h) : Render α) :=
  ⟨fun _ _ => ⟨⟨⟨rfl, rfl⟩, rfl⟩, nofun⟩⟩

instance (x : Except Halt α) : Keeps Plain (liftHalt x) := by
  cases x with
  | ok a => exact keeps_pure a
  | error h => exact keeps_halted h

instance keeps_modifyCode (f : Code → Code) : Keeps Plain (modifyCode f) :=
  ⟨fun _ _ => ⟨⟨⟨rfl, rfl⟩, rfl⟩, nofun⟩⟩

theorem keeps_modifySession {f : Session → Session} (hwaits : ∀ s, (f s).waits = s.waits)
    (hentries : ∀ s, waitEntries (f s) = waitEntries s) : Keeps Plain (modifySession f) :=
  ⟨fun _ s => ⟨⟨⟨hwaits s.session, hentries s.session⟩, rfl⟩, nofun⟩⟩

instance (f : Session → Session) : Keeps Translated (modifySession f) :=
  ⟨fun _ _ => nofun⟩

instance (f : Frame → Frame) : Keeps Translated (modifyFrame f) :=
  ⟨fun _ _ => nofun⟩

instance (f : Frame → Frame) : Keeps Steady (modifyFrame f) :=
  ⟨fun _ _ => ⟨rfl, rfl⟩⟩

instance : Keeps Plain profile := by unfold profile; infer_instance

instance keeps_frame : Keeps Plain frame := by unfold frame; infer_instance

instance keeps_statements {R : Effect} [Composable R] :
    Keeps R statements := by unfold statements; infer_instance

instance keeps_lineCount {R : Effect} [Composable R] :
    Keeps R lineCount := by unfold lineCount; infer_instance

instance keeps_line (text : String) : Keeps Plain (line text) := keeps_modifyCode _

instance keeps_comment (text : String) : Keeps Plain (comment text) := keeps_modifyCode _

theorem waitEntries_append {s : Session} {e : TraceEntry} (h : e.kind ≠ .wait) :
    waitEntries { s with trace := s.trace ++ [e] } = waitEntries s := by
  simp [waitEntries, h]

instance keeps_trace_locator (p : Provenance) (fragment : String) (l : Option Locator)
    (scope : String) : Keeps Plain (trace .locator p fragment l scope) := by
  exact keeps_frame.andThen fun f => keeps_modifySession (fun _ => rfl) fun s =>
    waitEntries_append (s := s) (by simp)

instance keeps_trace_action (p : Provenance) (fragment : String) (l : Option Locator)
    (scope : String) : Keeps Plain (trace .action p fragment l scope) := by
  exact keeps_frame.andThen fun f => keeps_modifySession (fun _ => rfl) fun s =>
    waitEntries_append (s := s) (by simp)

instance keeps_note (key message : String) (position : Option Position) :
    Keeps Plain (note key message position) := by
  refine keeps_read.andThen fun env => keeps_modifySession (fun s => ?_) (fun s => ?_)
  · split <;> rfl
  · split <;> rfl

instance keeps_needClass (u : SourceUnit) : Keeps Plain (needClass u) := by
  unfold needClass
  have := keeps_modifySession
    (f := fun s => { s with classImports := Table.put u.unitName u s.classImports })
    (fun _ => rfl) fun _ => rfl
  infer_instance

instance keeps_needModule (u : SourceUnit) : Keeps Plain (needModule u) := by
  unfold needModule
  have := keeps_modifySession
    (f := fun s => { s with moduleImports := Table.put u.unitName u s.moduleImports })
    (fun _ => rfl) fun _ => rfl
  infer_instance

instance keeps_needFunction (u : SourceUnit) (function : String) :
    Keeps Plain (needFunction u function) := by
  exact keeps_modifySession (fun _ => rfl) fun _ => rfl

/-- A step one level deeper does the same, and the level is restored. -/
theorem run_indented (x : Render Unit) (env : Env) (s : State) : (indented x).run env s =
      ((x.run env { s with code := s.code.deeper }).1,
        { (x.run env { s with code := s.code.deeper }).2 with
          code := (x.run env { s with code := s.code.deeper }).2.code.shallower }) := by
  have hdeeper : (modifyCode Code.deeper).run env s = (.ok (), { s with code := s.code.deeper }) :=
    rfl
  unfold indented
  rw [run_bind_ok hdeeper, run_bind, run_tryCatch]
  rcases x.run env { s with code := s.code.deeper } with ⟨_ | a, _⟩ <;> rfl

instance {R : Effect} [CodeFree R] (x : Render Unit)
    [h : Keeps R x] : Keeps R (indented x) := by
  refine ⟨fun env s => ?_⟩
  rw [run_indented]
  exact CodeFree.code (s := { s with code := s.code.deeper }) s.code _ (h.out env _)

/-- A step in another frame does what it does there, and the frame is restored. -/
theorem run_inFrame (f : Frame) (x : Render α) (env : Env) (s : State) : (inFrame f x).run env s =
      ((x.run env { s with frame := f }).1,
        { (x.run env { s with frame := f }).2 with frame := s.frame }) := by
  have henter : (modifyFrame fun _ => f).run env s = (.ok (), { s with frame := f }) := rfl
  unfold inFrame
  rw [run_bind_ok run_frame, run_bind_ok henter, run_bind, run_tryCatch]
  rcases x.run env { s with frame := f } with ⟨_ | a, _⟩ <;> rfl

theorem exists_of_run_inFrame {f : Frame} {x : Render α} {env : Env} {s s' : State}
    {r : Except Stop α} (h : (inFrame f x).run env s = (r, s')) :
    ∃ s₁, x.run env { s with frame := f } = (r, s₁) ∧ s' = { s₁ with frame := s.frame } := by
  rw [run_inFrame] at h
  cases h
  exact ⟨_, rfl, rfl⟩

theorem exists_of_run_indented {x : Render Unit} {env : Env} {s s' : State} {r : Except Stop Unit}
    (h : (indented x).run env s = (r, s')) :
    ∃ s₁, x.run env { s with code := s.code.deeper } = (r, s₁) ∧
        s' = { s₁ with code := s₁.code.shallower } := by
  rw [run_indented] at h
  cases h
  exact ⟨_, rfl, rfl⟩

end Basic

/-! ### Units for examples -/

/-- A unit of the package `p` with nothing in it. -/
def bareUnit (unitName simpleName : String) (kind : UnitKind) : SourceUnit :=
  { unitName, qualifiedName := "p." ++ simpleName, simpleName, package := "p", kind, imports := []
    provenance := ⟨unitName, 1, 9⟩ }

end TestMigration.Rendering
