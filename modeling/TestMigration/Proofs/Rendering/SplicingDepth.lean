import Mathlib.Data.List.Perm.Subperm
import TestMigration.Proofs.Rendering.SourceOrder
/-!
# How deep calls are spliced

A spliced method may call methods that are spliced in turn, and resolutions may lead in circles. A
method that is being spliced is refused, so the methods being spliced are distinct, and there are
not more of them than calls lead to (`Fits`). Where that is so, splicings that agree wherever it is
so give the same body (`Agrees`), since only the splicing of a call changes which methods are being
spliced (`Stacked`).
-/

namespace TestMigration.Rendering

open TestMigration.Action Text Profile

/-- Splicing that breaks off into `leaf`: at a depth, where a method is being spliced twice, and
where more methods than `bound` are being spliced. -/
def spliceFrom (leaf : Splicing) (bound : Nat) : Nat → Splicing
  | 0, d => leaf d
  | n + 1, d => do
    let stack := (← frame).stack
    if stack.Nodup ∧ stack.length ≤ bound then spliceWith (some (spliceFrom leaf bound n)) d
    else leaf d

/-! ### The methods being spliced -/

/-- The methods being spliced stay the same. -/
def Stacked (s : State) (_ : Option Stop) (s' : State) : Prop := s'.frame.stack = s.frame.stack

instance : Composable Stacked := ⟨fun _ => rfl, fun h h' => Eq.trans h' h⟩

instance : Lenient Stacked where
  plain h := congrArg Frame.stack h.toQuiet.frame
  verbatim _ _ := rfl

instance : CodeFree Stacked := ⟨fun _ _ h => h⟩

instance (priority := low) stacked_of_light {α : Type} {x : Render α} [h : Keeps Light x] :
    Keeps Stacked x :=
  h.mono fun ⟨_, _, hframe⟩ => by rw [Stacked, hframe]

instance {env : Env} : Kind.Writes env (Keeping env Stacked) where
  ofDeclare _ _ := rfl
  ofElement _ _ _ := rfl
  ofModifyFrame hf s := (hf s.frame).2
  ofInFrame _ _ _ _ _ _ := by rw [run_inFrame]; rfl
  ofGuarded := keeping_guarded
  ofWaitStep splice w s := congrArg Frame.stack (run_bodyStep_wait splice w env s).frame

section Agreement

variable {env : Env} {P : List MethodKey → Prop}

/-- Two steps do the same where the methods being spliced have a property. -/
def Agrees {α : Type} (env : Env) (P : List MethodKey → Prop) (x y : Render α) : Prop :=
  ∀ s, P s.frame.stack → x.run env s = y.run env s

variable {α β : Type} {x y : Render α} {f g : α → Render β}

theorem run_bind_congr [h : Keeps Stacked x] {s : State} (hf : ∀ a s', x.run env s = (.ok a, s') →
    s'.frame.stack = s.frame.stack → (f a).run env s' = (g a).run env s') :
    (x >>= f).run env s = (x >>= g).run env s := by
  rw [run_bind, run_bind]
  rcases hrun : x.run env s with ⟨stop | a, s'⟩
  · rfl
  · exact hf a s' hrun (h.of_run hrun)

theorem Agrees.before [Keeps Stacked x] (hf : ∀ a, Agrees env P (f a) (g a)) :
    Agrees env P (x >>= f) (x >>= g) :=
  fun _ hs => run_bind_congr fun a s' _ hstack => hf a s' (hstack ▸ hs)

theorem Agrees.after (hx : Agrees env P x y) (f : α → Render β) :
    Agrees env P (x >>= f) (y >>= f) :=
  fun s hs => by rw [run_bind, run_bind, hx s hs]

theorem Agrees.bind [Keeps Stacked x] (hx : Agrees env P x y) (hf : ∀ a, Agrees env P (f a) (g a)) :
    Agrees env P (x >>= f) (y >>= g) :=
  fun s hs => (Agrees.before hf s hs).trans (hx.after g s hs)

theorem Agrees.block {x y : Render Unit} (h : Agrees env P x y) :
    Agrees env P (block x) (block y) := by
  unfold Rendering.block
  refine .before fun before s hs => ?_
  rw [run_indented, run_indented, h.after _ { s with code := s.code.deeper } hs]

variable {splice splice' : Splicing}

theorem Agrees.forkLines (opening turn : Phrases → String) (both : Bool)
    {first second : List Action} [Keeps Stacked (bodyLines splice first)]
    (hfirst : Agrees env P (bodyLines splice first) (bodyLines splice' first))
    (hsecond : Agrees env P (bodyLines splice second) (bodyLines splice' second)) :
    Agrees env P (forkLines splice opening turn both first second)
      (forkLines splice' opening turn both first second) := by
  unfold Rendering.forkLines
  refine .before fun _ => .before fun _ => hfirst.block.bind fun _ => ?_
  split
  · exact .before fun _ => .before fun _ => hsecond.block.after _
  · exact fun _ _ => rfl

variable [hkeeps : ∀ d, Keeps Stacked (splice d)]

instance stacked_bodyLines (body : List Action) : Keeps Stacked (bodyLines splice body) where
  out env := by
    have hsplice (d : Delegation) : Is env (Keeping env Stacked) (splice d) := ⟨(hkeeps d).out env⟩
    exact (Is.bodyLines (fun _ => hsplice) body).out

mutual

theorem Agrees.actionLines (h : ∀ d, Agrees env P (splice d) (splice' d)) (a : Action) :
    Agrees env P (actionLines splice a) (actionLines splice' a) := by
  cases a with
  | branch condition thenBody elseBody p =>
    rw [actionLines_branch, actionLines_branch]
    exact .before fun _ => .forkLines _ _ _ (.bodyLines h thenBody) (.bodyLines h elseBody)
  | probe body fallback p =>
    cases hpresence : presenceCheck body fallback with
    | some presence =>
      rw [Rendering.actionLines, Rendering.actionLines, hpresence]
      exact fun _ _ => rfl
    | none =>
      rw [actionLines_probe p hpresence, actionLines_probe p hpresence]
      exact .forkLines _ _ _ (.bodyLines h body) (.bodyLines h fallback)
  | delegate d =>
    unfold Rendering.actionLines
    refine .before fun _ => ?_
    split
    · exact h d
    · exact fun _ _ => rfl
  | ret value p =>
    cases value <;> exact fun _ _ => rfl
  | _ => exact fun _ _ => rfl

theorem Agrees.bodyLines (h : ∀ d, Agrees env P (splice d) (splice' d)) (body : List Action) :
    Agrees env P (bodyLines splice body) (bodyLines splice' body) := by
  match body with
  | [] => exact fun _ _ => by rw [bodyLines_nil, bodyLines_nil]
  | a :: rest =>
    have hstep : Keeps Stacked (Rendering.bodyLines splice [a]) := stacked_bodyLines [a]
    simp only [bodyLines_cons, bodyLines_nil, bind_pure_unit] at hstep
    rw [bodyLines_cons, bodyLines_cons]
    refine .bind (fun s hs => ?_) fun _ => .bodyLines h rest
    cases ha : a.isWait with
    | true =>
      obtain ⟨w, rfl⟩ : ∃ w, a = .wait w := by cases a <;> simp_all [isWait]
      rw [bodyStep_wait, bodyStep_wait]
    | false =>
      rw [bodyStep_of_not_wait ha, bodyStep_of_not_wait ha, run_guarded, run_guarded,
        (Agrees.actionLines h a).after _ s hs]

end

end Agreement

/-! ### Depth -/

/-- Methods that can be spliced at the same time, `n` above the greatest depth. -/
structure Fits (m : Model) (n : Nat) (stack : List MethodKey) : Prop where
  nodup : stack.Nodup
  linked : ∀ key ∈ stack, key ∈ m.resolutions.map Prod.snd
  depth : methodCount m ≤ stack.length + n

variable {env : Env} {n : Nat} {splice' : Splicing} {splice? : Option Splicing}

/-- There are not more distinct methods than calls lead to. -/
theorem length_le_methodCount {m : Model} {stack : List MethodKey} (hnodup : stack.Nodup)
    (hlinked : ∀ key ∈ stack, key ∈ m.resolutions.map Prod.snd) : stack.length ≤ methodCount m :=
  (List.subperm_of_subset hnodup fun k hk => mem_foldl_insertNew.mpr
    (.inr (hlinked k hk))).length_le

theorem Fits.push {m : Model} {stack : List MethodKey} {key : MethodKey} {c : Call}
    (h : Fits m n stack)
    (hresolve : m.resolve? c = some key) (hnew : key ∉ stack) :
    ∃ k, n = k + 1 ∧ Fits m k (stack ++ [key]) := by
  have hnodup : (stack ++ [key]).Nodup := by
    rw [(List.perm_append_singleton key stack).nodup_iff]
    exact List.nodup_cons.mpr ⟨hnew, h.nodup⟩
  have hlinked : ∀ k ∈ stack ++ [key], k ∈ m.resolutions.map Prod.snd := by
    intro k hk
    rcases List.mem_append.mp hk with hk | hk
    · exact h.linked k hk
    · exact List.mem_map.mpr ⟨_, Table.mem_of_get? hresolve, (List.mem_singleton.mp hk).symm⟩
  have hlength := length_le_methodCount hnodup hlinked
  have hdepth := h.depth
  rw [List.length_append, List.length_singleton] at hlength
  refine ⟨n - 1, by omega, hnodup, hlinked, ?_⟩
  rw [List.length_append, List.length_singleton]
  omega

theorem not_mem_of_spliceFault {d : Delegation} {key : MethodKey} {method : Method}
    {stack : List MethodKey} (h : spliceFault d key method stack = none) : key ∉ stack := by
  unfold spliceFault at h
  split_ifs at h with _ hstack
  simpa using hstack

instance stacked_spliceWith (splice? : Option Splicing) (d : Delegation) :
    Keeps Stacked (spliceWith splice? d) := @stacked_of_light _ _ (light_spliceWith splice? d)

/-- A call is spliced the same way if those in its method are. -/
theorem agrees_spliceWith
    (h : ∀ k, n = k + 1 → ∃ splice, splice? = some splice ∧ (∀ d, Keeps Stacked (splice d)) ∧
      ∀ d, Agrees env (Fits env.model k) (splice d) (splice' d)) (d : Delegation) :
    Agrees env (Fits env.model n) (spliceWith splice? d) (spliceWith (some splice') d) := by
  unfold spliceWith
  refine fun s hs => run_bind_congr fun env' _ hread _ => ?_
  cases hread
  refine run_bind_congr fun key s₁ hkey h₁ => run_bind_congr fun method s₂ _ h₂ =>
    run_bind_congr fun callee s₃ _ h₃ => run_bind_congr fun outer _ houter _ => ?_
  cases houter
  rw [← h₁, ← h₂, ← h₃] at hs
  dsimp only
  cases hfault : spliceFault d key method s₃.frame.stack with
  | some cause => rfl
  | none =>
    obtain ⟨k, rfl, hfits⟩ := hs.push (eq_of_run_resolveCall hkey).1 (not_mem_of_spliceFault hfault)
    obtain ⟨splice, rfl, _, hagree⟩ := h k rfl
    refine run_bind_congr fun p _ _ _ => run_bind_congr fun arrival _ _ _ =>
      run_bind_congr fun _ s₄ _ _ => ?_
    have hlines : Agrees env (Fits env.model k) (splicedLines splice method arrival)
        (splicedLines splice' method arrival) :=
          .before fun _ => .before fun _ => .bodyLines hagree method.actions
    have hinner : Agrees env (fun _ => True)
        (inFrame (spliceFrame s₃.frame callee key method arrival)
          (splicedLines splice method arrival))
        (inFrame (spliceFrame s₃.frame callee key method arrival)
          (splicedLines splice' method arrival)) := by
      intro s _
      rw [run_inFrame, run_inFrame,
        hlines { s with frame := spliceFrame s₃.frame callee key method arrival } hfits]
    split
    · exact hinner s₄ trivial
    · exact run_bind_congr fun _ s₅ _ _ => hinner.block.after _ s₅ trivial

theorem agrees_spliceFrom (env : Env) (leaf : Splicing) (n extra : Nat) (d : Delegation) :
    Agrees env (Fits env.model n) (spliceCall n d)
      (spliceFrom leaf (methodCount env.model) (n + extra + 1) d) := by
  have henter {n : Nat} {d : Delegation} (h : Agrees env (Fits env.model n) (spliceCall n d)
      (spliceWith (some (spliceFrom leaf (methodCount env.model) (n + extra))) d)) :
      Agrees env (Fits env.model n) (spliceCall n d)
        (spliceFrom leaf (methodCount env.model) (n + extra + 1) d) := by
    intro s hs
    rw [h s hs, spliceFrom, run_bind_ok run_frame]
    dsimp only
    rw [if_pos ⟨hs.nodup, length_le_methodCount hs.nodup hs.linked⟩]
  induction n generalizing d with
  | zero => exact henter (agrees_spliceWith (by simp) d)
  | succ n ih =>
    refine henter (agrees_spliceWith (fun k hk => ?_) d)
    cases hk
    rw [Nat.add_right_comm]
    exact ⟨_, rfl, fun d => by cases n <;> exact stacked_spliceWith _ d, ih⟩

/-- **Calls are spliced to a limited depth**, whatever the resolutions are. Wherever a call is
spliced, the methods being spliced are distinct and not more than calls lead to: what would be done
elsewhere, here `leaf`, plays no part. -/
theorem splicing_bounded (env : Env) (leaf : Splicing) (extra : Nat) (actions : List Action)
    {s : State} (hs : s.frame.stack = []) : (actionsOf actions).run env s =
      (bodyLines (spliceFrom leaf (methodCount env.model) (methodCount env.model + extra + 1))
        actions).run env s := by
  have (d : Delegation) : Keeps Stacked (spliceCall (methodCount env.model) d) := by
    cases methodCount env.model <;> exact stacked_spliceWith _ d
  refine Agrees.bodyLines (agrees_spliceFrom env leaf _ extra) actions s ?_
  rw [hs]
  exact ⟨.nil, by simp, by simp⟩

/-- A helper that calls itself. -/
def callingItself : Env :=
  let u := { helpedFlow with methods := helpedFlow.methods.map fun m =>
    { m with actions := helpedFlow.tests.flatMap (·.actions) } }
  { helpedFlowEnv .inline with model.units := [u], unit := u }

theorem splicing_bounded_callingItself :
    (actionsOf (helpedFlow.tests.flatMap (·.actions))).run callingItself callingItself.start =
      (bodyLines (spliceFrom (fun _ => pure ()) (methodCount callingItself.model)
        (methodCount callingItself.model + 1)) (helpedFlow.tests.flatMap (·.actions))).run
          callingItself callingItself.start :=
  splicing_bounded callingItself (fun _ => pure ()) 0 _ rfl

end TestMigration.Rendering
