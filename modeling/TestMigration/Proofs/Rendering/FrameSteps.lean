import TestMigration.Proofs.Rendering.Waits
/-!
# Steps that depend on the frame alone

The text of a value depends on the frame in which it is written, and neither on the session nor on
the lines that are there. So it can be found out without rendering what comes before, by running the
step in a state that has nothing but the frame (`evalIn`).

The class `Framed` says so of a step, and also that it only writes lines behind those that are
there. As for `Keeps`, the statements about the functions of rendering are found from those about
their parts.
-/

namespace TestMigration.Rendering

open TestMigration.Action Text Profile

def Code.more (c : Code) (lines : List String) (statements : Nat) : Code :=
  { c with lines := c.lines ++ lines, statements := c.statements + statements }

theorem Code.more_more (c : Code) (lines lines' : List String) (n n' : Nat) :
    (c.more lines n).more lines' n' = c.more (lines ++ lines') (n + n') := by
  simp [Code.more, Nat.add_assoc]

theorem Code.more_nil (c : Code) : c.more [] 0 = c := by simp [Code.more]

/-- What a step gives and the frame it leaves depend on the frame alone; it only adds lines. -/
structure FramedIn {α : Type} (env : Env) (x : Render α) : Prop where
  result {s t : State} : s.frame = t.frame → (x.run env s).1 = (x.run env t).1
  frame {s t : State} : s.frame = t.frame → (x.run env s).2.frame = (x.run env t).2.frame
  code (s : State) : ∃ lines n, (x.run env s).2.code = s.code.more lines n

/-- A step that depends on the frame alone, in every environment. -/
class Framed {α : Type} (x : Render α) : Prop where
  within (env : Env) : FramedIn env x

def evalIn {α : Type} (env : Env) (f : Frame) (x : Render α) : Except Stop α :=
  (x.run env { frame := f }).1

def frameIn {α : Type} (env : Env) (f : Frame) (x : Render α) : Frame :=
  (x.run env { frame := f }).2.frame

/-! ### How steps are put together -/

section Compose

variable {α β : Type}
variable {x : Render α} {env : Env} {f : α → Render β}

theorem Framed.eval [h : Framed x] {s s' : State} {r : Except Stop α}
    (hrun : x.run env s = (r, s')) :
    evalIn env s.frame x = r ∧ s'.frame = frameIn env s.frame x ∧
      ∃ lines n, s'.code = s.code.more lines n := by
  have hresult := (h.within env).result (s := s) (t := { frame := s.frame }) rfl
  have hframe := (h.within env).frame (s := s) (t := { frame := s.frame }) rfl
  have hcode := (h.within env).code s
  rw [hrun] at hresult hframe hcode
  exact ⟨hresult.symm, hframe, hcode⟩

/-- A step that changes only the session and the frame. -/
theorem Framed.of_run {r : Env → Frame → Except Stop α} {g : Env → Frame → Frame}
    (h : ∀ env f c i, ∃ i', x.run env ⟨i, f, c⟩ = (r env f, ⟨i', g env f, c⟩)) : Framed x := by
  have hrun : ∀ env s, (x.run env s).1 = r env s.frame ∧ (x.run env s).2.frame = g env s.frame ∧
      (x.run env s).2.code = s.code := by
    intro env s
    obtain ⟨i', hrun⟩ := h env s.frame s.code s.session
    rw [hrun]
    exact ⟨rfl, rfl, rfl⟩
  refine ⟨fun env => ⟨fun {s t} h => ?_, fun {s t} h => ?_, fun s => ⟨[], 0, ?_⟩⟩⟩
  · rw [(hrun env s).1, (hrun env t).1, h]
  · rw [(hrun env s).2.1, (hrun env t).2.1, h]
  · rw [(hrun env s).2.2, Code.more_nil]

instance (a : α) : Framed (pure a : Render α) := .of_run fun _ _ _ _ => ⟨_, rfl⟩

instance framed_read : Framed (read : Render Env) := .of_run fun _ _ _ _ => ⟨_, rfl⟩

instance framed_frame : Framed frame := .of_run fun _ _ _ _ => ⟨_, rfl⟩

instance (stop : Stop) : Framed (throw stop : Render α) := .of_run fun _ _ _ _ => ⟨_, rfl⟩

instance framed_modifySession (f : Session → Session) : Framed (modifySession f) :=
  .of_run fun _ _ _ _ => ⟨_, rfl⟩

instance (f : Frame → Frame) : Framed (modifyFrame f) :=
  .of_run fun _ _ _ _ => ⟨_, rfl⟩

theorem Code.line_eq_more (c : Code) (text : String) : c.line text = c.more
    (if text.isEmpty then [""] else (splitOn "\n" text).map fun part =>
      if part.isEmpty then "" else c.margin ++ part) (if text.isEmpty then 0 else 1) := by
  unfold Code.line Code.more
  split <;> rfl

instance (text : String) : Framed (line text) :=
  ⟨fun _ => ⟨fun _ => rfl, fun h => h, fun s => ⟨_, _, Code.line_eq_more s.code text⟩⟩⟩

instance (text : String) : Framed (comment text) :=
  ⟨fun _ => ⟨fun _ => rfl, fun h => h, fun _ => ⟨_, 0, rfl⟩⟩⟩

theorem FramedIn.after (hx : FramedIn env x)
    (hf : ∀ {a s s'}, x.run env s = (.ok a, s') → FramedIn env (f a)) : FramedIn env (x >>= f) := by
  -- From states with the same frame the first step ends in the same way.
  have hboth : ∀ {s t : State}, s.frame = t.frame →
      (∃ stop s' t', x.run env s = (.error stop, s') ∧ x.run env t = (.error stop, t')) ∨
        ∃ a s' t', x.run env s = (.ok a, s') ∧ x.run env t = (.ok a, t') := by
    intro s t h
    have hresult := hx.result h
    rcases hs : x.run env s with ⟨stop | a, s'⟩ <;> rcases ht : x.run env t with ⟨_ | _, t'⟩ <;>
      rw [hs, ht] at hresult <;> cases hresult
    · exact .inl ⟨stop, s', t', rfl, rfl⟩
    · exact .inr ⟨a, s', t', rfl, rfl⟩
  refine ⟨fun {s t} h => ?_, fun {s t} h => ?_, fun s => ?_⟩
  · have hframe := hx.frame h
    obtain ⟨stop, s', t', hs, ht⟩ | ⟨a, s', t', hs, ht⟩ := hboth h <;> rw [hs, ht] at hframe
    · rw [run_bind_error hs, run_bind_error ht]
    · rw [run_bind_ok hs, run_bind_ok ht, (hf hs).result hframe]
  · have hframe := hx.frame h
    obtain ⟨stop, s', t', hs, ht⟩ | ⟨a, s', t', hs, ht⟩ := hboth h <;> rw [hs, ht] at hframe
    · rw [run_bind_error hs, run_bind_error ht, hframe]
    · rw [run_bind_ok hs, run_bind_ok ht, (hf hs).frame hframe]
  · obtain ⟨lines, n, hcode⟩ := hx.code s
    rcases hs : x.run env s with ⟨stop | a, s'⟩ <;> rw [hs] at hcode
    · exact ⟨lines, n, by rw [run_bind_error hs, hcode]⟩
    · obtain ⟨lines', n', hcode'⟩ := (hf hs).code s'
      exact ⟨lines ++ lines', n + n', by rw [run_bind_ok hs, hcode', hcode, Code.more_more]⟩

theorem Framed.andThen (hx : Framed x) (hf : ∀ a, Framed (f a)) :
    Framed (x >>= f) := ⟨fun env => (hx.within env).after fun {a _ _} _ => (hf a).within env⟩

instance (x : Render α) (f : α → Render β) [hx : Framed x] [hf : ∀ a, Framed (f a)] :
    Framed (x >>= f) := hx.andThen hf

theorem run_tryCatch_eq (x : Render α) (f : Stop → Render α) (env : Env) (s : State) :
    (tryCatch x f).run env s = match (x.run env s).1 with
      | .ok a => (.ok a, (x.run env s).2)
      | .error stop => (f stop).run env (x.run env s).2 := by
  rw [run_tryCatch]
  rcases x.run env s with ⟨stop | a, _⟩ <;> rfl

instance (x : Render α) (f : Stop → Render α) [hx : Framed x]
    [hf : ∀ stop, Framed (f stop)] : Framed (tryCatch x f) := by
  refine ⟨fun env => ?_⟩
  have hx := hx.within env
  refine ⟨fun {s t} h => ?_, fun {s t} h => ?_, fun s => ?_⟩
  · rw [run_tryCatch_eq, run_tryCatch_eq, hx.result h]
    cases (x.run env t).1 with
    | ok a => rfl
    | error stop => exact ((hf stop).within env).result (hx.frame h)
  · rw [run_tryCatch_eq, run_tryCatch_eq, hx.result h]
    cases (x.run env t).1 with
    | ok a => exact hx.frame h
    | error stop => exact ((hf stop).within env).frame (hx.frame h)
  · rw [run_tryCatch_eq]
    obtain ⟨lines, n, hcode⟩ := hx.code s
    cases (x.run env s).1 with
    | ok a => exact ⟨lines, n, hcode⟩
    | error stop =>
      obtain ⟨lines', n', hcode'⟩ := ((hf stop).within env).code (x.run env s).2
      refine ⟨lines ++ lines', n + n', ?_⟩
      rw [← Code.more_more, ← hcode]
      exact hcode'

instance (c : Prop) [Decidable c] (x y : Render α) [hx : Framed x] [hy : Framed y] :
    Framed (if c then x else y) := by
  split
  · exact hx
  · exact hy

end Compose

/-! ### Values and single actions -/

instance (kind : TraceKind) (p : Provenance) (fragment : String) (l : Option Locator)
    (scope : String) : Framed (trace kind p fragment l scope) := by unfold trace; infer_instance

/-- The steps that depend on the frame alone in an environment. -/
def Framing (env : Env) : Kind where
  Holds x _ := FramedIn env x

instance (priority := low) {α : Type} {x : Render α} [h : ∀ env, Is env (Framing env) x] :
    Framed x := ⟨fun env => (h env).out⟩

section Abilities

variable {env : Env}

instance : Kind.Single (Framing env) where
  ofRead := Framed.within env

instance : Kind.Halts env (Framing env) where
  ofPure _ := Framed.within env
  ofAsk h := FramedIn.after (framed_read.within env) fun hrun => by cases hrun; exact h _ (.refl _)
  ofFrame h := FramedIn.after (framed_frame.within env) fun _ => h _ trivial
  ofBind hx hf := FramedIn.after hx hf
  ofRefusal _ _ := by unfold refuse; exact Framed.within env
  ofAnyHalt _ := Framed.within env

instance : Kind.Values env (Framing env) where
  ofVerbatim _ := Framed.within env
  ofNote _ _ _ := by unfold note; exact Framed.within env
  ofClass _ := by unfold needClass; exact Framed.within env
  ofModule _ := by unfold needModule; exact Framed.within env
  ofFunction _ _ := (framed_modifySession _).within env
  ofLocator _ _ _ _ := Framed.within env

instance : Kind.Acts env (Framing env) where
  ofLine _ := Framed.within env
  ofComment _ := Framed.within env
  ofAction _ _ _ _ := Framed.within env

instance : Kind.Binds env (Framing env) where
  ofDeclare _ := Framed.within env
  ofElement _ _ := Framed.within env

end Abilities

instance (x : Render Unit) [Framed x] : Framed (guarded x) := by
  have : ∀ stop : Stop, Framed (match stop with
      | .untranslatable text => untranslated text
      | stop => throw stop : Render Unit) := by
    intro stop
    cases stop <;> infer_instance
  unfold guarded
  infer_instance

instance (i : Interaction) : Framed (interactAction i) := by
  refine .andThen inferInstance fun p => ?_
  split <;> infer_instance

instance (w : Wait) : Framed (waitAction w) := by
  refine .andThen inferInstance fun p => ?_
  split
  · infer_instance
  · cases w.target <;> infer_instance

end TestMigration.Rendering
