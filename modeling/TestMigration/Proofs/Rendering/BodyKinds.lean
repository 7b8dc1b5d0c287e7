import TestMigration.Proofs.Rendering.Untouched
/-!
# Kinds of steps for whole bodies

A body is rendered action by action, and its actions hold further bodies: the sides of a fork, and
the methods of spliced calls. If a kind of steps takes in what is written, goes into frames of its
own and out again, and takes in a counted wait, then a whole body is of that kind. The induction is
over the body, for any splicing of calls of the kind, and then over how deep calls are spliced.
-/

namespace TestMigration.Rendering

open TestMigration.Action Text Profile

/-- Steps of the kind write bodies without splicing. -/
class Kind.Writes (env : Env) (K : Kind) : Prop extends Kind.Lays env K, Kind.Acts env K,
    Kind.Fields env K, Kind.Binds env K, Kind.Frames env K where
  ofModifyFrame {f : Frame → Frame} (hf : ∀ o, (f o).unit = o.unit ∧ (f o).stack = o.stack) :
    K.Holds (modifyFrame f) (modifyFrame f)
  ofGuarded {x y : Render Unit} : K.Holds x y → K.Holds (guarded x) (guarded y)
  ofWaitStep (splice : Splicing) (w : Wait) :
    K.Holds (bodyStep splice (.wait w)) (bodyStep splice (.wait w))

/-- Steps of the kind write bodies. -/
class Kind.Splices (env : Env) (K : Kind) : Prop extends Kind.Writes env K where
  ofSplice (h : env.strategy = .inline) (n : Nat) (d : Delegation) :
    K.Holds (spliceCall n d) (spliceCall n d)

section Writes

variable {env : Env} {K : Kind} [Kind.Writes env K] {splice : Splicing}

theorem is_modifyFrame {f : Frame → Frame} (hf : ∀ o, (f o).unit = o.unit ∧ (f o).stack = o.stack) :
    Is env K (modifyFrame f) := ⟨Kind.Writes.ofModifyFrame env hf⟩

instance (x y : Render Unit) [hx : Akin env K x y] : Akin env K (guarded x) (guarded y) :=
  ⟨Kind.Writes.ofGuarded env hx.out⟩

instance (x : Render Unit) [Is env K x] : Is env K (block x) := by unfold block; infer_instance

instance (i : Interaction) : Is env K (interactAction i) := by
  refine .after inferInstance fun _ => ?_
  split
  · infer_instance
  · refine .after inferInstance fun _ => Akin.after inferInstance fun _ => ?_
    refine .after (is_modifyFrame ?_) fun _ => inferInstance
    exact fun _ => ⟨rfl, rfl⟩

theorem Is.forkLines (opening turn : Phrases → String) (both : Bool) {first second : List Action}
    (hfirst : Is env K (bodyLines splice first)) (hsecond : Is env K (bodyLines splice second)) :
    Is env K (forkLines splice opening turn both first second) := by
  refine .after inferInstance fun _ => Akin.after inferInstance fun _ =>
    Akin.after inferInstance fun _ => ?_
  infer_instance

mutual

theorem Is.actionLines (hsplice : env.strategy = .inline → ∀ d, Is env K (splice d)) (a : Action)
    (ha : a.isWait = false) : Is env K (actionLines splice a) := by
  cases a with
  | wait => cases ha
  | delegate d =>
    unfold Rendering.actionLines
    refine .ask fun _ _ => ?_
    dsimp only
    split
    · exact hsplice ‹_› d
    · infer_instance
  | branch _ thenBody elseBody p =>
    rw [actionLines_branch]
    exact .after inferInstance fun _ => Is.forkLines _ _ _ (Is.bodyLines hsplice thenBody)
      (Is.bodyLines hsplice elseBody)
  | probe body fallback p =>
    cases hpresence : presenceCheck body fallback with
    | some =>
      rw [Rendering.actionLines, hpresence]
      infer_instance
    | none =>
      rw [actionLines_probe p hpresence]
      exact Is.forkLines _ _ _ (Is.bodyLines hsplice body) (Is.bodyLines hsplice fallback)
  | ret value => cases value <;> (unfold Rendering.actionLines; infer_instance)
  | _ => unfold Rendering.actionLines; infer_instance

theorem Is.bodyLines (hsplice : env.strategy = .inline → ∀ d, Is env K (splice d))
    (body : List Action) :
    Is env K (bodyLines splice body) := by
  match body with
  | [] => rw [bodyLines_nil]; infer_instance
  | a :: rest =>
    have hstep : Is env K (bodyStep splice a) := by
      cases ha : a.isWait with
      | true =>
        obtain ⟨w, rfl⟩ : ∃ w, a = .wait w := by cases a <;> simp_all [isWait]
        exact ⟨Kind.Writes.ofWaitStep env splice w⟩
      | false =>
        have := Is.actionLines hsplice a ha
        have : Is env K (modifyFrame fun f => { f with cleared := [] }) :=
          is_modifyFrame fun _ => ⟨rfl, rfl⟩
        rw [bodyStep_of_not_wait ha]
        infer_instance
    rw [bodyLines_cons]
    exact hstep.after fun _ => Is.bodyLines hsplice rest

end

end Writes

section Splices

variable {env : Env} {K : Kind}

theorem Is.spliceWith [Kind.Writes env K] [Kind.Single K] {splice? : Option Splicing}
    (h : ∀ splice ∈ splice?, ∀ d, Is env K (splice d)) (d : Delegation) :
    Is env K (spliceWith splice? d) := by
  have hlines (splice : Splicing) (hmem : splice ∈ splice?) (method : Method)
      (a : Arrival) : Is env K (splicedLines splice method a) := by
    have := Is.bodyLines (fun _ => h splice hmem) method.actions
    unfold splicedLines; infer_instance
  refine is_read.after fun hread => ?_
  cases hread
  refine .resolved fun hkey => (is_lookup fun _ => .method hkey).after fun {method _ _} _ =>
    (is_lookup fun _ => .unit hkey).after fun {callee _ _} _ => Akin.after inferInstance fun _ => ?_
  split
  · infer_instance
  · infer_instance
  · refine .after inferInstance fun _ => Akin.after inferInstance fun {arrival _ _} _ => ?_
    have := hlines _ rfl method arrival
    infer_instance

/-- A spliced body belongs to another unit, so the kind has one environment. -/
instance (priority := low) [Kind.Writes env K] [Kind.Single K] : Kind.Splices env K where
  ofSplice _ n d := by
    induction n generalizing d with
    | zero => exact @Akin.out env _ _ _ _ (Is.spliceWith (by simp) d)
    | succ n ih => exact @Akin.out env _ _ _ _ (Is.spliceWith (by simpa using fun d => ⟨ih d⟩) d)

variable [Kind.Splices env K]

instance (body : List Action) : Is env K (actionsOf body) := by
  refine .ask fun m hm => ?_
  rw [show methodCount m = methodCount env.model by rw [methodCount, hm.resolutions, methodCount]]
  exact Is.bodyLines (fun hinline d => ⟨Kind.Splices.ofSplice hinline _ d⟩) body

instance (actions : List Action) : Is env K (body actions) := by
  refine .after (is_modifyFrame ?_) fun _ => inferInstance
  exact fun _ => ⟨rfl, rfl⟩

theorem is_renderBody (actions : List Action) {f : Frame} (hf : K.inside f.unit) :
    Is env K (renderBody actions f) := by
  unfold renderBody
  split <;> exact .after inferInstance fun _ => akin_inFrame (by exact hf) inferInstance

instance [Kind.Single K] (actions : List Action) (f : Frame) :
    Is env K (renderBody actions f) := is_renderBody actions (Kind.Single.anywhere f.unit)

end Splices

end TestMigration.Rendering
