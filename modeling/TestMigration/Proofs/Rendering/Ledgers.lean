import TestMigration.Proofs.Rendering.BodyKinds
import TestMigration.Proofs.Rendering.TargetForm
/-!
# What bodies leave behind

What rendering a body leaves can often be told from the body alone: how many waits it has come
across, or which fragments it has written. The answer is put together from entries for the parts of
the body. What an action leaves may depend on the elements bound before it, so every part is looked
at in the scope that fits behind the parts before it.

All ledgers deal with forks in the same way: if the condition has no target form, the fork leaves
what a comment leaves; otherwise what its two sides leave, one after the other. So only actions
without sides have to be looked at for each ledger (`part_bodyLines`).
-/

namespace TestMigration.Rendering

open TestMigration.Action Text Profile

/-- What is put down about the parts of a body. -/
structure Ledger (M : Type) where
  join : M → M → M
  /-- The entries tell what has happened between two states. -/
  Tells : M → State → State → Prop
  /-- Nothing has happened that is put down. -/
  Idle : Effect
  composable : Composable Idle
  trans {m m' : M} {s s' s'' : State} : Tells m s s' → Tells m' s' s'' → Tells (join m m') s s''
  around {m : M} {s s₁ s₂ s' : State} {e e' : Option Stop} :
    Idle s e s₁ → Tells m s₁ s₂ → Idle s₂ e' s' → Tells m s s'
  lays (env : Env) : Kind.Lays env (Keeping env Idle)
  value (env : Env) (v : Value) : Is env (Keeping env Idle) (valueText v)
  objects (env : Env) (actions : List Action) : Is env (Keeping env Idle) (declareObjects actions)
  deeper (s : State) : Idle s none { s with code := s.code.deeper }
  shallower (s : State) : Idle s none { s with code := s.code.shallower }
  reframe (s : State) {f : Frame} (h : f.body = s.frame.body) : Idle s none { s with frame := f }

attribute [instance] Ledger.composable Ledger.lays Ledger.value Ledger.objects

/-- The actions with sides of their own. -/
def isForked : Action → Bool
  | .branch .. => true
  | .probe body fallback _ => (presenceCheck body fallback).isNone
  | _ => false

namespace Ledger

variable {M : Type} (L : Ledger M)

/-- The entries of a part of a body, and the scope that fits behind it. -/
structure Part (out : M × Scope) (s s' : State) : Prop where
  fits : out.2.Fits s'.frame
  tells : L.Tells out.1 s s'

/-- The entries of two bodies, one behind the other. -/
def both (listed : Scope → List Action → M × Scope) (σ : Scope) (first second : List Action) :
    M × Scope :=
  (L.join (listed σ first).1 (listed (listed σ first).2 second).1,
    (listed (listed σ first).2 second).2)

def Recorded (env : Env) (splice : Splicing) (listed : Scope → List Action → M × Scope)
    (body : List Action) : Prop :=
  ∀ {σ : Scope} {s s' : State}, σ.Fits s.frame → (bodyLines splice body).run env s = (.ok (), s') →
    L.Part (listed σ body) s s'

/-- What is listed for actions and bodies, and that it is so for actions without sides. -/
structure Listing (env : Env) (splice : Splicing) where
  action : Scope → Action → M × Scope
  body : Scope → List Action → M × Scope
  /-- What a branch leaves that becomes a comment. -/
  lapsed : List Action → List Action → M
  nil {σ : Scope} {s : State} : σ.Fits s.frame → L.Part (body σ []) s s
  cons (σ : Scope) (a : Action) (rest : List Action) : body σ (a :: rest) =
    (L.join (action σ a).1 (body (action σ a).2 rest).1, (body (action σ a).2 rest).2)
  branch (σ : Scope) (condition : Value) (thenBody elseBody : List Action) (p : Provenance) :
    action σ (.branch condition thenBody elseBody p) =
      if σ.lacks env condition then (lapsed thenBody elseBody, σ)
      else L.both body σ thenBody elseBody
  probe (σ : Scope) (tried fallback : List Action) (p : Provenance) :
    presenceCheck tried fallback = none →
      action σ (.probe tried fallback p) = L.both body σ tried fallback
  lapse (thenBody elseBody : List Action) {s s' : State} :
    L.Idle s none s' → L.Tells (lapsed thenBody elseBody) s s'
  step {σ : Scope} {a : Action} {s s' : State} : isForked a = false → σ.Fits s.frame →
    (bodyStep splice a).run env s = (.ok (), s') → L.Part (action σ a) s s'

section Parts

variable {L} {env : Env} {σ : Scope} {out out' : M × Scope} {s s' s'' s₁ s₂ : State}

theorem Part.trans (h : L.Part out s s') (h' : L.Part out' s' s'') :
    L.Part (L.join out.1 out'.1, out'.2) s s'' := ⟨h'.fits, L.trans h.tells h'.tells⟩

theorem Part.between {e e' : Option Stop} (h : L.Part out s₁ s₂) (hbefore : L.Idle s e s₁)
    (hafter : L.Idle s₂ e' s') (hframe : s'.frame = s₂.frame) : L.Part out s s' :=
  ⟨hframe ▸ h.fits, L.around hbefore h.tells hafter⟩

theorem idle_of_run {α : Type} {x : Render α} [h : Is env (Keeping env L.Idle) x]
    {r : Except Stop α} (hrun : x.run env s = (r, s')) : L.Idle s (stopOf r) s' := by
  have := h.out s
  rwa [hrun] at this

theorem part_block {x : Render Unit}
    (h : ∀ {s₁}, x.run env { s with code := s.code.deeper } = (.ok (), s₁) →
      L.Part out { s with code := s.code.deeper } s₁)
    (hrun : (block x).run env s = (.ok (), s')) : L.Part out s s' := by
  obtain ⟨s₁, s₂, hx, hfiller, rfl⟩ := exists_filler_of_run_block hrun
  have hquiet : Quiet s₁ none s₂ := Keeps.of_run hfiller
  exact (h hx).between (L.deeper s)
    (Composable.trans (idle_of_run hfiller) (L.shallower s₂)) hquiet.frame

variable {splice : Splicing} {listed : Scope → List Action → M × Scope}
variable {first second : List Action}

theorem part_forkLines {opening turn : Phrases → String} {needed : Bool}
    (hfirst : L.Recorded env splice listed first) (hsecond : L.Recorded env splice listed second)
    (hfits : σ.Fits s.frame)
    (hrun : (forkLines splice opening turn needed first second).run env s = (.ok (), s')) :
    L.Part (L.both listed σ first second) s s' := by
  obtain ⟨_, s₂, hopening, hblock, hrest⟩ := exists_of_run_forkLines hrun
  rw [← ((keeps_line _).of_run hopening).frame] at hfits
  have hleft :=
    (part_block (hfirst hfits) hblock).between (idle_of_run hopening) (Composable.refl s₂) rfl
  refine hleft.trans ?_
  rcases hrest with ⟨-, rfl, hclose⟩ | ⟨-, _, _, hturn, hblock, hclose⟩
  · -- The second side is left out, so there is nothing on it to be listed.
    have hnothing := hsecond (s := s₂) hleft.fits rfl
    exact hnothing.between (Composable.refl s₂) (idle_of_run hclose)
      (keeps_closeBlock.of_run hclose).frame
  · have hfits₃ := hleft.fits
    rw [← ((keeps_line _).of_run hturn).frame] at hfits₃
    exact (part_block (hsecond hfits₃) hblock).between (idle_of_run hturn) (idle_of_run hclose)
      (keeps_closeBlock.of_run hclose).frame

theorem part_guardedFork {α : Type} {x : Render α} [hquiet : Keeps Quiet x]
    [Is env (Keeping env L.Idle) x] {lacks : Bool} (hx : Judges env σ lacks x) {lapsed : M}
    (hlapsed : ∀ {s s'}, L.Idle s none s' → L.Tells lapsed s s') {opening : α → Phrases → String}
    {turn : Phrases → String} {needed : Bool} (hfirst : L.Recorded env splice listed first)
    (hsecond : L.Recorded env splice listed second) (hfits : σ.Fits s.frame)
    (hrun : (guardedStep x fun a =>
      forkLines splice (opening a) turn needed first second).run env s = (.ok (), s')) :
    L.Part (if lacks then (lapsed, σ) else L.both listed σ first second) s s' := by
  rcases run_guardedStep_cases hrun with
    ⟨text, s₁, hxrun, hcomment⟩ | ⟨a, s₁, s₂, hxrun, hfork, rfl⟩
  · have hidle : L.Idle s none s' :=
      Composable.trans (idle_of_run hxrun) (idle_of_run (x := untranslated text) hcomment)
    rw [hx.untranslatable hfits hxrun]
    rw [← (hquiet.of_run hxrun).frame, ← ((keeps_untranslated text).of_run hcomment).frame] at hfits
    exact ⟨hfits, hlapsed hidle⟩
  · have hfits₁ : σ.Fits s₁.frame := (hquiet.of_run hxrun).frame ▸ hfits
    rw [hx.ok hfits hxrun]
    have hpart := part_forkLines hfirst hsecond hfits₁ hfork
    exact ⟨⟨hpart.fits.unit, hpart.fits.mode, hpart.fits.bound⟩,
      L.around (idle_of_run hxrun) hpart.tells (L.reframe s₂ rfl)⟩

mutual

theorem part_bodyStep (T : L.Listing env splice) (a : Action) {σ : Scope} {s s' : State}
    (hfits : σ.Fits s.frame) (hrun : (bodyStep splice a).run env s = (.ok (), s')) :
    L.Part (T.action σ a) s s' := by
  revert hrun
  cases a with
  | branch condition thenBody elseBody p =>
    intro hrun
    rw [bodyStep_of_not_wait rfl, actionLines_branch] at hrun
    rw [T.branch]
    exact part_guardedFork (judges_valueText condition) (T.lapse thenBody elseBody)
      (part_bodyLines T thenBody) (part_bodyLines T elseBody) hfits hrun
  | probe tried fallback p =>
    intro hrun
    cases hpresence : presenceCheck tried fallback with
    | some => exact T.step (by rw [isForked, hpresence]; rfl) hfits hrun
    | none =>
      rw [bodyStep_of_not_wait rfl, actionLines_probe p hpresence] at hrun
      rw [T.probe σ tried fallback p hpresence]
      have hfork : (guardedStep (pure ()) fun _ =>
          forkLines splice (·.tryOpen) (·.catchOpen) true tried fallback).run env s =
            (.ok (), s') := by
        rw [guardedStep, pure_bind]
        exact hrun
      exact part_guardedFork (Judges.of_translated _) (T.lapse tried fallback)
        (part_bodyLines T tried) (part_bodyLines T fallback) hfits hfork
  | _ => exact T.step rfl hfits

/-- **A body leaves what is listed for it.** -/
theorem part_bodyLines (T : L.Listing env splice) (body : List Action) :
    L.Recorded env splice T.body body := by
  intro σ s _ hfits hrun
  match body with
  | [] =>
    rw [bodyLines_nil] at hrun
    cases hrun
    exact T.nil hfits
  | a :: rest =>
    rw [bodyLines_cons] at hrun
    obtain ⟨_, _, hstep, hrest⟩ := exists_of_run_bind hrun
    have hfirst := part_bodyStep T a hfits hstep
    rw [T.cons]
    exact hfirst.trans (part_bodyLines T rest hfirst.fits hrest)

end

theorem part_body (T : L.Listing env (spliceCall (methodCount env.model))) (actions : List Action)
    (hfits : σ.Fits s.frame) (hrun : (body actions).run env s = (.ok (), s')) :
    L.Part (T.body σ actions) s s' := by
  obtain ⟨s₁, hdeclare, hrun⟩ := exists_of_run_body hrun
  obtain ⟨_, hframe⟩ := (Keeps.of_run (R := Calm) hdeclare).frame
  have hfits₁ : σ.Fits s₁.frame := by
    rw [hframe]
    exact ⟨hfits.unit, hfits.mode, hfits.bound⟩
  have hbefore : L.Idle s none s₁ := by
    refine Composable.trans (e := none) ?_ (idle_of_run hdeclare)
    exact L.reframe s rfl
  exact (part_bodyLines T actions hfits₁ hrun).between hbefore (Composable.refl s') rfl

end Parts

end Ledger

end TestMigration.Rendering
