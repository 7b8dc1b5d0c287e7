import TestMigration.Proofs.Rendering.Ledgers
/-!
# Waits that are lost

Rendering counts the waits it comes across, and the finished file is refused if one of them has no
fragment in it. If the condition of a branch has no target form, the branch becomes a comment, and
the waits inside of it are gone and not counted.

How many waits are lost that way can be told from a body alone (`lostIn`), and rendering comes
across all the others (`accounts_bodyLines`). Whether a condition has a target form depends on the
elements bound before it. So the induction over the body carries a scope along, and says of each
part both how many waits were come across and which scope fits behind it (`Accounts`). Of fragments
there are never more than waits that were come across (`Bounded`), whatever the strategy for calls.
-/

namespace TestMigration.Rendering

open TestMigration.Action Text Profile

/-! ### There are not more fragments than waits -/

section Bounded

variable {splice : Splicing}

theorem bounded_bodyStep_wait (w : Wait) : Keeps Bounded (bodyStep splice (.wait w)) := by
  refine ⟨fun env s => ?_⟩
  have h := run_bodyStep_wait splice w env s
  have hwaits := h.waits
  have hentries := h.entries
  rw [Bounded]
  change _ = s.session.waits + 1 at hwaits
  change _ ≤ waitEntries s.session + 1 at hentries
  omega

instance {env : Env} : Kind.Writes env (Keeping env Bounded) where
  ofModifyFrame _ := Keeps.out env
  ofInFrame f _ _ _ hx s := by
    rw [run_inFrame]
    exact hx { s with frame := f }
  ofGuarded := keeping_guarded
  ofWaitStep _ w := (bounded_bodyStep_wait w).out env

end Bounded

/-! ### The waits that are lost -/

mutual

def lostInAction (env : Env) (σ : Scope) : Action → Nat × Scope
  | .locate l =>
    (0, if l.parent.any (σ.lacksElement env) || σ.lacksLocator env l.locator then σ
      else σ.bind l.ref.id)
  | .pick k =>
    (0, if σ.lacksElement env k.source || σ.lacks env k.index then σ else σ.bind k.ref.id)
  | .branch condition thenBody elseBody _ =>
    if σ.lacks env condition then (count isWait thenBody + count isWait elseBody, σ)
    else
      let first := lostIn env σ thenBody
      let second := lostIn env first.2 elseBody
      (first.1 + second.1, second.2)
  | .probe body fallback _ =>
    let first := lostIn env σ body
    let second := lostIn env first.2 fallback
    (first.1 + second.1, second.2)
  | _ => (0, σ)

/-- How many waits of a body are lost in a scope, and the scope behind it. -/
def lostIn (env : Env) (σ : Scope) : List Action → Nat × Scope
  | [] => (0, σ)
  | a :: rest =>
    let first := lostInAction env σ a
    let second := lostIn env first.2 rest
    (first.1 + second.1, second.2)

end

/-- What counts waits stays, and the frame but for declared variables and for fields known to be
empty. -/
structure Mild (s : State) (e : Option Stop) (s' : State) : Prop extends Steady s e s' where
  frame : ∃ declared cleared, s'.frame = { s.frame with declared, cleared }

theorem Calm.mild {s s' : State} {e : Option Stop} (h : Calm s e s') : Mild s e s' := by
  obtain ⟨declared, hframe⟩ := h.frame
  exact ⟨h.toSteady, declared, s.frame.cleared, hframe⟩

instance : Composable Mild where
  refl _ := ⟨⟨rfl, rfl⟩, _, _, rfl⟩
  trans h h' := by
    obtain ⟨_, _, hframe⟩ := h.frame
    obtain ⟨declared, cleared, hframe'⟩ := h'.frame
    exact ⟨Composable.trans h.toSteady h'.toSteady, declared, cleared, by rw [hframe', hframe]⟩

instance : Tolerant Mild := ⟨fun h => h.toQuiet.calm.mild⟩

instance (priority := low) {α : Type} {x : Render α} [h : Keeps Calm x] : Keeps Mild x :=
  h.mono Calm.mild

instance (f : Frame → List String) :
    Keeps Mild (modifyFrame fun frame => { frame with cleared := f frame }) :=
  ⟨fun _ _ => ⟨⟨rfl, rfl⟩, _, _, rfl⟩⟩

instance (i : Interaction) : Keeps Mild (interactAction i) := by
  refine .andThen inferInstance fun p => ?_
  split
  · infer_instance
  · exact .andThen inferInstance fun _ => inferInstance

theorem Mild.fits {s s' : State} {e : Option Stop} (h : Mild s e s') {σ : Scope}
    (hfits : σ.Fits s.frame) : σ.Fits s'.frame := by
  obtain ⟨_, _, hframe⟩ := h.frame
  rw [hframe]
  exact ⟨hfits.unit, hfits.mode, hfits.bound⟩

/-- The actions without lookups, waits and bodies inside. -/
def isPlainStep : Action → Bool
  | .locate _ | .pick _ | .wait _ | .branch .. | .probe .. => false
  | _ => true

theorem mild_bodyStep {a : Action} (h : isPlainStep a = true) :
    Keeps Mild (bodyStep callAction a) := by
  have hlines : Keeps Mild (actionLines callAction a) := by
    cases a with
    | locate | pick | wait | branch | probe => cases h
    | ret value => cases value <;> (unfold actionLines; infer_instance)
    | _ => unfold actionLines; infer_instance
  have hwait : a.isWait = false := by cases a <;> first | rfl | cases h
  rw [bodyStep_of_not_wait hwait]
  infer_instance

/-- Where calls are not spliced, it does not matter how they would be. -/
theorem run_bodyStep_callAction {env : Env} (henv : env.strategy ≠ .inline)
    (splice : Splicing) {a : Action} (h : isPlainStep a = true) (s : State) :
    (bodyStep splice a).run env s = (bodyStep callAction a).run env s := by
  -- Only a call looks at `splice`, and it does so only under the other strategy.
  cases a with
  | delegate d =>
    have hrun : ∀ (splice : Splicing) (s : State),
        (actionLines splice (.delegate d)).run env s = (callAction d).run env s := by
      intro splice s
      rw [actionLines, run_bind_ok run_read, if_neg henv]
    rw [bodyStep_of_not_wait rfl, bodyStep_of_not_wait rfl, run_guarded, run_guarded, run_bind,
      run_bind, hrun, hrun]
  | locate | pick | wait | branch | probe => cases h
  | ret value p => cases value <;> rfl
  | _ => rfl

/-! ### Lookups -/

def lookedUp (l : Lookup) : Render String := do
  let scope ← match l.parent with
    | some parent => elementText parent
    | none => pure (← frame).page
  let text ← locatorText l.locator scope l.provenance
  trace .locator l.provenance text (some l.locator) scope
  return text

def picked (k : Pick) : Render String := do
  let source ← elementText k.source
  let index ← valueText k.index
  return fill (← profile).locators.nth [("source", source), ("index", index)]

theorem locateAction_eq (l : Lookup) :
    locateAction l = (lookedUp l >>= fun text => bindElement l.ref l.inline text) := by
  unfold locateAction lookedUp
  cases l.parent <;> simp

theorem pickAction_eq (k : Pick) :
    pickAction k = (picked k >>= fun text => bindElement k.ref k.inline text) := by
  simp [pickAction, picked]

section Lookups

variable {env : Env} {σ : Scope}

instance {K : Kind} [Kind.Fields env K] (l : Lookup) : Is env K (lookedUp l) := by
  unfold lookedUp
  cases l.parent <;> infer_instance

instance {K : Kind} [Kind.Fields env K] (k : Pick) : Is env K (picked k) := by
  unfold picked; infer_instance

theorem judges_lookedUp (l : Lookup) :
    Judges env σ (l.parent.any (σ.lacksElement env) || σ.lacksLocator env l.locator)
      (lookedUp l) := by
  unfold lookedUp
  cases l.parent with
  | none =>
    refine .after fun f => ?_
    exact .bind (Judges.of_translated _) fun scope => (judges_locatorText _ _ _).before
  | some parent =>
    exact (judges_elementText parent).bind fun scope => (judges_locatorText _ _ _).before

theorem judges_picked (k : Pick) :
    Judges env σ (σ.lacksElement env k.source || σ.lacks env k.index) (picked k) :=
  (judges_elementText k.source).bind fun _ => (judges_valueText k.index).before

theorem run_bindElement (env : Env) (ref : ElementRef) (inline : Bool) (text : String) (s : State) :
    ∃ s', (bindElement ref inline text).run env s = (.ok (), s') ∧ Steady s none s' ∧
      ∃ declared text', s'.frame =
        { s.frame with declared, elements := Table.put ref.id text' s.frame.elements } := by
  cases inline with
  | true => exact ⟨_, rfl, ⟨rfl, rfl⟩, _, _, rfl⟩
  | false => exact ⟨_, rfl, ⟨rfl, rfl⟩, _, _, rfl⟩

theorem Scope.Fits.bind {f : Frame} (h : σ.Fits f) (id text : String)
    (declared cleared : List String) :
    (σ.bind id).Fits { f with declared, cleared, elements := Table.put id text f.elements } where
  unit := h.unit
  mode := h.mode
  bound x := by
    rw [Scope.bind, List.mem_cons, h.bound x, Table.get?_put]
    by_cases hx : id = x
    · simp [hx]
    · simp [hx, Ne.symm hx]

/-- A lookup with a target form binds its element; one without leaves the frame alone. -/
theorem run_binding {x : Render String} [hquiet : Keeps Quiet x] {b : Bool} (hx : Judges env σ b x)
    {ref : ElementRef} {inline : Bool} {s s' : State} (hfits : σ.Fits s.frame)
    (hrun : (guardedStep x (bindElement ref inline)).run env s = (.ok (), s')) :
    Steady s none s' ∧ (if b then σ else σ.bind ref.id).Fits s'.frame := by
  rcases run_guardedStep_cases hrun with
    ⟨text, s₁, hxrun, hcomment⟩ | ⟨text, s₁, _, hxrun, hbound, rfl⟩
  · have hbefore := hquiet.of_run hxrun
    have hafter := (keeps_untranslated text).of_run hcomment
    rw [hx.untranslatable hfits hxrun, hafter.frame, hbefore.frame]
    exact ⟨Composable.trans hbefore.toSteady hafter.toSteady, hfits⟩
  · have hbefore := hquiet.of_run hxrun
    obtain ⟨_, hbind, hsteady, declared, bound, hframe⟩ := run_bindElement env ref inline text s₁
    cases hbind.symm.trans hbound
    rw [hx.ok hfits hxrun]
    refine ⟨Composable.trans hbefore.toSteady ⟨hsteady.waits, hsteady.entries⟩, ?_⟩
    have hfits' := hfits.bind ref.id bound declared []
    rw [← hbefore.frame] at hfits'
    simpa [hframe] using hfits'

end Lookups

/-! ### Bodies -/

/-- The ledger of waits: how many are lost, and how many there are. The others have been come
across. -/
def waitLedger : Ledger (Nat × Nat) where
  join m m' := (m.1 + m'.1, m.2 + m'.2)
  Tells m s s' := s'.session.waits + m.1 = s.session.waits + m.2
  Idle := Steady
  composable := inferInstance
  trans h h' := by
    omega
  around hbefore h hafter := by rw [hafter.waits, h, hbefore.waits]
  lays _ := inferInstance
  value _ _ := inferInstance
  objects _ _ := inferInstance
  deeper _ := ⟨rfl, rfl⟩
  shallower _ := ⟨rfl, rfl⟩
  reframe _ _ _ := ⟨rfl, rfl⟩

section Bodies

variable {env : Env} {σ : Scope} {s s' : State}

theorem accounts_binding {x : Render String} [Keeps Quiet x] {b : Bool} (hx : Judges env σ b x)
    {ref : ElementRef} {inline : Bool} (hfits : σ.Fits s.frame)
    (hrun : (guardedStep x (bindElement ref inline)).run env s = (.ok (), s')) :
    waitLedger.Part ((0, 0), if b then σ else σ.bind ref.id) s s' := by
  obtain ⟨hsteady, hfits'⟩ := run_binding hx hfits hrun
  exact ⟨hfits', hsteady.waits⟩

theorem accounts_step (henv : env.strategy ≠ .inline) (splice : Splicing) {a : Action}
    (ha : isForked a = false) (hfits : σ.Fits s.frame)
    (hrun : (bodyStep splice a).run env s = (.ok (), s')) :
    waitLedger.Part (((lostInAction env σ a).1, a.nested.countP isWait),
      (lostInAction env σ a).2) s s' := by
  have hplain (h : isPlainStep a = true) : Mild s none s' := by
    rw [run_bodyStep_callAction henv splice h] at hrun
    exact (mild_bodyStep h).of_run hrun
  cases a with
  | locate l =>
    rw [bodyStep_of_not_wait rfl, actionLines, locateAction_eq] at hrun
    exact accounts_binding (judges_lookedUp l) hfits hrun
  | pick k =>
    rw [bodyStep_of_not_wait rfl, actionLines, pickAction_eq] at hrun
    exact accounts_binding (judges_picked k) hfits hrun
  | wait w =>
    have hwaited := run_bodyStep_wait splice w env s
    rw [hrun] at hwaited
    rw [← hwaited.frame] at hfits
    exact ⟨hfits, hwaited.waits⟩
  | branch => cases ha
  | probe body fallback p =>
    cases hpresence : presenceCheck body fallback with
    | none =>
      rw [isForked, hpresence] at ha
      cases ha
    | some =>
      -- Both sides are single returns, so there are no waits on them.
      obtain ⟨ref, arg, q, l, q', rfl, rfl, -, -⟩ := presenceCheck_eq_some_iff.mp hpresence
      have hlines : Keeps Quiet (actionLines splice (.probe
          [.ret (some (.elementQuery ref "visible" arg)) q] [.ret (some (.literal l)) q'] p)) := by
        rw [actionLines, hpresence]
        infer_instance
      rw [bodyStep_of_not_wait rfl] at hrun
      have hmild := (inferInstance : Keeps Mild _).of_run hrun
      exact ⟨hmild.fits hfits, hmild.waits⟩
  | _ => exact ⟨(hplain rfl).fits hfits, (hplain rfl).waits⟩

theorem count_branch (condition : Value) (thenBody elseBody : List Action) (p : Provenance) :
    (Action.branch condition thenBody elseBody p).nested.countP isWait =
      count isWait thenBody + count isWait elseBody := by
  rw [nested, List.countP_cons_of_neg (by simp [isWait]), List.countP_append, count, count]

theorem count_probe (body fallback : List Action) (p : Provenance) :
    (Action.probe body fallback p).nested.countP isWait =
      count isWait body + count isWait fallback := by
  rw [nested, List.countP_cons_of_neg (by simp [isWait]), List.countP_append, count, count]

/-- **Rendering comes across all waits but the lost ones.** -/
def waitListing (henv : env.strategy ≠ .inline) (splice : Splicing) :
    waitLedger.Listing env splice where
  action σ a := (((lostInAction env σ a).1, a.nested.countP isWait), (lostInAction env σ a).2)
  body σ body := (((lostIn env σ body).1, count isWait body), (lostIn env σ body).2)
  lapsed thenBody elseBody :=
    (count isWait thenBody + count isWait elseBody, count isWait thenBody + count isWait elseBody)
  nil h := ⟨h, rfl⟩
  cons σ a rest := by
    rw [count, all, List.countP_append]
    rfl
  branch σ condition thenBody elseBody p := by
    rw [count_branch, lostInAction]
    split <;> rfl
  probe σ body fallback p _ := by
    rw [count_probe]
    rfl
  lapse _ _ _ _ h := congrArg (· + _) h.waits
  step := accounts_step henv splice

end Bodies

end TestMigration.Rendering
