import TestMigration.Proofs.Rendering.BodyFragments
/-!
# The fragments of spliced methods

A spliced method leaves its fragments in the body that calls it, and they still stand for the lines
of the method. It starts with a scope of its own, that of its unit, in which just the elements
passed to it are bound; the scope of the caller counts only for the arguments. The list of these
fragments is defined for one level of splices after the other (`splicedMarks`), as splicing itself
is, so the proof that splicing leaves them is an induction over the levels (`splices_spliceCall`).
With that, the fragments of a whole body are known under both strategies (`added_renderBody`).
-/

namespace TestMigration.Rendering

open TestMigration.Action Text Profile

/-! ### What a spliced call leaves -/

/-- The elements passed to a method, by their names in its body. -/
def passedElements (method : String) : List (Param × Value) → List String
  | [] => []
  | (param, .element _) :: rest =>
    ("param:" ++ method ++ ":" ++ param.name) :: passedElements method rest
  | _ :: rest => passedElements method rest

def splicedMethod? (env : Env) (d : Delegation) : Option (SourceUnit × Method) :=
  match env.model.resolve? d.call with
  | none => none
  | some key =>
    match env.model.unit key.unitName, env.model.method key with
    | .ok callee, .ok method => some (callee, method)
    | _, _ => none

def splicedScope (d : Delegation) (callee : SourceUnit) (m : Method) : Scope :=
  { unit := callee, mode := .inline, bound := passedElements m.name (m.params.zip d.call.args) }

/-- What a spliced call leaves, where `listed` lists it for the calls of the method. -/
def marksInSplice (env : Env) (listed : Scope → Delegation → MarkList)
    (σ : Scope) (d : Delegation) : MarkList :=
  match splicedMethod? env d with
  | none => []
  | some (callee, m) =>
    if (m.params.zip d.call.args).any fun pair => σ.lacks env pair.2 then []
    else (marksIn env listed (splicedScope d callee m) m.actions).1

/-- What a spliced call leaves, through at most so many other splices. -/
def splicedMarks (env : Env) : Nat → Scope → Delegation → MarkList
  | 0 => fun _ _ => []
  | n + 1 => marksInSplice env (splicedMarks env n)

def bodyMarks (env : Env) (σ : Scope) (actions : List Action) : MarkList :=
  (marksIn env (splicedMarks env (methodCount env.model)) σ actions).1

/-! ### Arguments -/

section Arguments

variable {env : Env} {σ : Scope}
variable {method : String} {a a' : Arrival} {s s' : State}

theorem judges_passArgument (method : String) (param : Param) (arg : Value) (a : Arrival) :
    Judges env σ (σ.lacks env arg) (passArgument method param arg a) := by
  unfold passArgument
  cases arg with
  | element ref =>
    have hlacks : σ.lacks env (.element ref) = σ.lacksElement env ref := by
      simp [Scope.lacks, Scope.valueLacks, Scope.lacksElement, Scope.partLacks, Value.parts]
    rw [hlacks]
    exact (judges_elementText ref).before
  | driver => exact .of_translated _
  | _ => exact (judges_valueText _).before

theorem judges_passArguments (method : String) (pairs : List (Param × Value)) (a : Arrival) :
    Judges env σ (pairs.any fun pair => σ.lacks env pair.2) (passArguments method pairs a) := by
  induction pairs generalizing a with
  | nil => exact .of_translated (pure a)
  | cons pair _ ih =>
    exact (judges_passArgument method pair.1 pair.2 a).bind ih

/-- An argument is bound under the name of its parameter exactly if it is an element. -/
theorem isSome_elements_passArgument {param : Param} {arg : Value}
    (hrun : (passArgument method param arg a).run env s = (.ok a', s')) (id : String) :
    (Table.get? id a'.elements).isSome ↔
      id ∈ passedElements method [(param, arg)] ∨ (Table.get? id a.elements).isSome := by
  cases arg with
  | element =>
    obtain ⟨text, s₁, -, hreturn⟩ := exists_of_run_bind hrun
    cases hreturn
    rw [Table.get?_put]
    by_cases hid : "param:" ++ method ++ ":" ++ param.name = id
    · simp [passedElements, hid]
    · simp [passedElements, hid, Ne.symm hid]
  | _ =>
    obtain ⟨text, s₁, -, hreturn⟩ := exists_of_run_bind hrun
    cases hreturn
    simp [passedElements]

theorem passedElements_cons (method : String) (pair : Param × Value) (rest : List (Param × Value)) :
    passedElements method (pair :: rest) =
      passedElements method [pair] ++ passedElements method rest := by
  obtain ⟨_, arg⟩ := pair
  cases arg <;> rfl

theorem isSome_elements_passArguments {pairs : List (Param × Value)}
    (hrun : (passArguments method pairs a).run env s = (.ok a', s')) (id : String) :
    (Table.get? id a'.elements).isSome ↔
      id ∈ passedElements method pairs ∨ (Table.get? id a.elements).isSome := by
  induction pairs generalizing a s with
  | nil =>
    cases hrun
    simp [passedElements]
  | cons pair rest ih =>
    obtain ⟨_, _, hfirst, hrest⟩ := exists_of_run_bind hrun
    rw [ih hrest, isSome_elements_passArgument hfirst, passedElements_cons method pair rest,
      List.mem_append]
    tauto

end Arguments

/-! ### Splicing -/

section Splicing

variable {env : Env} {σ : Scope} {splice : Splicing}
variable {listed : Scope → Delegation → MarkList}
variable {d : Delegation} {callee : SourceUnit} {key : MethodKey} {m : Method} {s s' : State}
variable {r : Except Stop Unit}

instance {α : Type} (f : Frame) (x : Render α) [h : Keeps Translated x] :
    Keeps Translated (inFrame f x) := by
  refine ⟨fun env s => ?_⟩
  rw [run_inFrame]
  exact h.out env { s with frame := f }

instance (splice : Splicing) (m : Method) (a : Arrival) :
    Keeps Translated (splicedLines splice m a) := by unfold splicedLines; infer_instance

theorem unmarked_bindings (p : Phrases) (bindings : List (String × String)) :
    Keeps Unmarked (bindings.forM fun (name, text) => do
      line (fill p.declare [("name", ← ident name), ("value", text)])) := by infer_instance

theorem added_splicedLines [HoldsValues env.profile.phrases] (hsplice : Splices env splice listed)
    {outer : Frame} {arrival : Arrival} (hpassed : ∀ id, (Table.get? id arrival.elements).isSome ↔
      id ∈ passedElements m.name (m.params.zip d.call.args)) (hbody : outer.body = s.frame.body)
    (hrun : (inFrame (spliceFrame outer callee key m arrival)
      (splicedLines splice m arrival)).run env s = (.ok (), s')) :
    Added ((marksIn env listed (splicedScope d callee m) m.actions).1.map
      (stamp s.frame.body)) s s' := by
  obtain ⟨_, hinner, rfl⟩ := exists_of_run_inFrame hrun
  unfold splicedLines at hinner
  rw [run_bind_ok run_phrases] at hinner
  obtain ⟨_, s₂, hbindings, hlines⟩ := exists_of_run_bind hinner
  have hunmarked := (unmarked_bindings env.profile.phrases arrival.bindings).of_run hbindings
  have hquiet := (inferInstance : Keeps Plain (arrival.bindings.forM fun (name, text) => do
    line (fill env.profile.phrases.declare [("name", ← ident name), ("value", text)]))).of_run
      hbindings
  have hfits : (splicedScope d callee m).Fits s₂.frame := by
    rw [hquiet.frame]
    exact ⟨rfl, rfl, fun id => (hpassed id).symm⟩
  have hleaves := leaves_bodyLines hsplice m.actions hfits hlines
  have hadded := hunmarked.added.trans hleaves.tells.added
  rw [hunmarked.body] at hadded
  rw [← hbody]
  exact hadded

theorem light_spliceWith (splice? : Option Splicing) (d : Delegation) :
    Keeps Light (spliceWith splice? d) := by
  refine .andThen inferInstance fun env => Keeps.andThen inferInstance fun key =>
    Keeps.andThen inferInstance fun method => Keeps.andThen inferInstance fun callee =>
    Keeps.andThen inferInstance fun outer => ?_
  split
  · infer_instance
  · infer_instance
  · refine .andThen inferInstance fun p => Keeps.andThen inferInstance fun a =>
      Keeps.andThen inferInstance fun _ => ?_
    infer_instance

/-- The lines of a spliced method have a comment before them, and a block if the target has such
blocks. -/
def splicedBlock (p : Phrases) (text : String) (inner : Render Unit) : Render Unit := do
  comment text
  if p.inlineOpen.isEmpty then inner
  else
    line p.inlineOpen
    block inner
    line p.inlineClose

/-- A spliced method is never given up as a whole. -/
theorem translated_splicedBlock (p : Phrases) (text : String) (inner : Render Unit)
    [Keeps Translated inner] : Keeps Translated (splicedBlock p text inner) :=
  Keeps.andThen inferInstance fun _ => inferInstance

/-- A step is not refused: it gives a result, or lacks a target form. -/
def Allowed (r : Except Stop Unit) : Prop := r = .ok () ∨ ∃ text, r = .error (.untranslatable text)

theorem Allowed.ne_refused (hr : Allowed r) (refused : Refusal) :
    r ≠ .error (.refused refused) := by
  rcases hr with rfl | ⟨_, rfl⟩ <;> simp

/-- A step that never lacks a target form is not where a sequence ends. -/
theorem Allowed.exists_of_run_bind (hr : Allowed r) {α : Type} {x : Render α}
    [hx : Keeps Plain x] {f : α → Render Unit} (h : (x >>= f).run env s = (r, s')) :
    ∃ a s₁, x.run env s = (.ok a, s₁) ∧ (f a).run env s₁ = (r, s') := by
  rcases hrun : x.run env s with ⟨_ | a, s₁⟩
  · rw [run_bind_error hrun] at h
    cases h
    rcases hr with hok | ⟨text, hstop⟩
    · cases hok
    · cases hstop
      exact absurd rfl ((hx.of_run hrun).translated text)
  · rw [run_bind_ok hrun] at h
    exact ⟨a, s₁, rfl, h⟩

/-- A call that is not refused may be spliced still, and its arguments are passed to its method;
until then nothing has been written. -/
theorem Allowed.exists_of_run_spliceWith (hr : Allowed r) {splice? : Option Splicing}
    (hrun : (spliceWith splice? d).run env s = (r, s')) :
    ∃ splice key callee m, splice? = some splice ∧ env.model.resolve? d.call = some key ∧
      splicedMethod? env d = some (callee, m) ∧ (do
        let a ← passArguments m.name (m.params.zip d.call.args) {}
        splicedBlock env.profile.phrases (fill env.profile.phrases.comment
            [("text", "inlined " ++ (callee.simpleName ++ "." ++ m.name))])
          (inFrame (spliceFrame s.frame callee key m a) (splicedLines splice m a))).run env s =
            (r, s') := by
  unfold spliceWith at hrun
  rw [run_bind_ok run_read] at hrun
  obtain ⟨key, _, hkey, hrun⟩ := hr.exists_of_run_bind hrun
  obtain ⟨m, _, hmethod, hrun⟩ := hr.exists_of_run_bind hrun
  obtain ⟨callee, _, hcallee, hrun⟩ := hr.exists_of_run_bind hrun
  obtain ⟨hkey, hsame₁⟩ := eq_of_run_resolveCall hkey
  obtain ⟨hmethod, hsame₂⟩ := run_liftHalt hmethod
  obtain ⟨hcallee, hsame₃⟩ := run_liftHalt hcallee
  rw [hsame₃, hsame₂, hsame₁, run_bind_ok run_frame] at hrun
  split at hrun
  · exact absurd (congrArg Prod.fst hrun).symm (hr.ne_refused _)
  · exact absurd (congrArg Prod.fst hrun).symm (hr.ne_refused _)
  · rw [run_bind_ok run_phrases] at hrun
    exact ⟨_, key, callee, m, rfl, hkey, by simp only [splicedMethod?, hkey, hmethod, hcallee],
      hrun⟩

theorem Allowed.run_spliceWith_none (hr : Allowed r) : (spliceWith none d).run env s ≠ (r, s') := by
  intro hrun
  obtain ⟨_, -, -, -, hnone, -⟩ := hr.exists_of_run_spliceWith hrun
  cases hnone

/-- Only an argument can lack a target form, before anything is written. -/
theorem exists_of_run_spliceWith {splice? : Option Splicing} {text : String}
    (hrun : (spliceWith splice? d).run env s = (.error (.untranslatable text), s')) :
    ∃ key callee m, env.model.resolve? d.call = some key ∧ splicedMethod? env d = some (callee, m) ∧
      (passArguments m.name (m.params.zip d.call.args) {}).run env s =
        (.error (.untranslatable text), s') := by
  obtain ⟨_, key, callee, m, -, hkey, hmethod, hrun⟩ :=
    Allowed.exists_of_run_spliceWith (.inr ⟨text, rfl⟩) hrun
  rcases hpass : (passArguments m.name (m.params.zip d.call.args) {}).run env s with ⟨_ | a, s₁⟩
  · rw [run_bind_error hpass] at hrun
    cases hrun
    exact ⟨key, callee, m, hkey, hmethod, hpass⟩
  · rw [run_bind_ok hpass] at hrun
    exact absurd rfl ((translated_splicedBlock _ _ _).of_run hrun text)

/-- Around the lines of a spliced method nothing leaves a fragment. -/
theorem leaves_splicedBlock {inner : Render Unit} {out : MarkList × Scope}
    (p : Phrases) (text : String)
    (hinner : ∀ {s₁ s₂}, s₁.frame = s.frame → inner.run env s₁ = (.ok (), s₂) → Leaves out s₁ s₂)
    (hrun : (splicedBlock p text inner).run env s = (.ok (), s')) : Leaves out s s' := by
  obtain ⟨_, s₁, hcomment, hrun⟩ := exists_of_run_bind hrun
  have hbefore := (unmarked_comment text).of_run hcomment
  have hframe := ((keeps_comment text).of_run hcomment).frame
  split at hrun
  · exact (hinner hframe hrun).between hbefore (Composable.refl s') rfl
  · obtain ⟨_, s₂, hopen, hrun⟩ := exists_of_run_bind hrun
    obtain ⟨_, _, hblock, hclose⟩ := exists_of_run_bind hrun
    have hframe₂ := ((keeps_line _).of_run hopen).frame
    have hleaves := Ledger.part_block (hinner (hframe₂.trans hframe)) hblock
    exact hleaves.between (Composable.trans hbefore ((unmarked_line _).of_run hopen))
      ((unmarked_line _).of_run hclose) ((keeps_line _).of_run hclose).frame

/-- **A spliced call leaves what its method leaves in a scope of its own**, if what is passed to it
has a target form. -/
theorem marks_spliceWith [HoldsValues env.profile.phrases] (hsplice : Splices env splice listed)
    (d : Delegation) : Marks env σ (marksInSplice env listed σ d) (spliceWith (some splice) d) := by
  refine ⟨fun {s s' _} hfits hrun => ?_, fun {s s' text} hfits hrun => ?_⟩
  · obtain ⟨_, key, callee, m, hsome, -, hmethod, hrun⟩ :=
      Allowed.exists_of_run_spliceWith (.inl rfl) hrun
    cases hsome
    obtain ⟨arrival, s₁, hpass, hrun⟩ := exists_of_run_bind hrun
    have hframe := (Keeps.of_run (R := Quiet) hpass).frame
    have hpassed : ∀ id, (Table.get? id arrival.elements).isSome ↔
        id ∈ passedElements m.name (m.params.zip d.call.args) := fun id => by
      simpa using isSome_elements_passArguments hpass id
    have hleaves : Leaves (_, σ) _ _ :=
      leaves_splicedBlock env.profile.phrases _ (fun hsame hlines => by
      have hadded := added_splicedLines hsplice (d := d) hpassed (by rw [hsame, hframe]) hlines
      have hlight := (light_inFrame _ _).of_run hlines
      exact ⟨hlight.fits (by rw [hsame, hframe]; exact hfits), hlight.body, hadded⟩) hrun
    have hbefore := (inferInstance : Keeps Unmarked (passArguments _ _ _)).of_run hpass
    rw [marksInSplice, hmethod]
    dsimp only
    rw [(judges_passArguments _ _ _).ok hfits hpass]
    have hadded := hbefore.added.trans hleaves.tells.added
    rwa [hbefore.body] at hadded
  · obtain ⟨_, callee, m, -, hmethod, hpass⟩ := exists_of_run_spliceWith hrun
    rw [marksInSplice, hmethod]
    dsimp only
    rw [(judges_passArguments _ _ _).untranslatable hfits hpass]
    exact ⟨rfl, ((inferInstance : Keeps Unmarked (passArguments _ _ _)).of_run hpass).added⟩

/-- A call that cannot be spliced any more only refuses the unit. -/
theorem marks_spliceWith_none (d : Delegation) : Marks env σ [] (spliceWith none d) where
  ok _ hrun := absurd hrun (Allowed.run_spliceWith_none (.inl rfl))
  untranslatable _ hrun := absurd hrun (Allowed.run_spliceWith_none (.inr ⟨_, rfl⟩))

/-- **Splicing leaves what is listed for it**, through any number of methods. -/
theorem splices_spliceCall [HoldsValues env.profile.phrases] (n : Nat) :
    Splices env (spliceCall n) (splicedMarks env n) := by
  induction n with
  | zero => exact ⟨light_spliceWith none, fun _ d => marks_spliceWith_none d⟩
  | succ n ih => exact ⟨light_spliceWith _, fun _ d => marks_spliceWith ih d⟩

end Splicing

/-! ### Whole bodies -/

section Bodies

variable {env : Env} [HoldsValues env.profile.phrases]
variable {f : Frame} {s s' : State} {declared : List String}

/-- A body in a frame without bound elements leaves what is listed for it. -/
theorem added_renderBody (actions : List Action) (hf : f.elements = [])
    (hrun : (renderBody actions f).run env s = (.ok declared, s')) :
    Added ((bodyMarks env { unit := f.unit, mode := f.mode } actions).map (stamp f.body)) s s' := by
  obtain ⟨objects, _, _, hobjects, hbody, -, rfl⟩ := exists_of_run_renderBody hrun
  have hfits : Scope.Fits { unit := f.unit, mode := f.mode } { f with contextObjects := objects } :=
    ⟨rfl, rfl, fun id => by simp [hf]⟩
  have hmarks := Ledger.part_body (markListing (splices_spliceCall _)) actions hfits hbody
  exact (Keeps.of_run (R := Unmarked) hobjects).added.trans hmarks.tells.added

end Bodies

end TestMigration.Rendering
