import TestMigration.Proofs.Rendering.TwinScopes
/-!
# Bodies that stall

If a body can be rendered with texts in place of calls, then what happens with the calls kept as
text can be told from the body alone: the rendering is given up exactly if it reaches an action
whose first obstacle is a missing element (`stalls`). An action whose first obstacle is a text
becomes a comment instead, and a branch that becomes a comment is not looked into.

Single actions are compared as values are (`follows_actionLines`). For bodies the comparison also
says in which scopes the two renderings go on; that is `Leads`, with one case for a single action,
and one for a fork (`leads_forkLines`).
-/

namespace TestMigration.Rendering

open TestMigration.Action Linking Text Profile

/-! ### The obstacles of a body -/

/-- The obstacle of an action, its bodies aside. -/
def actionObstacle? (env : Env) (σ : Scope) : Action → Option Obstacle
  | .navigate url _ => σ.obstacle? env url
  | .locate l => (l.parent.bind (σ.obstacleTo? env)).or (σ.obstacleOf? env l.locator)
  | .pick k => (σ.obstacleTo? env k.source).or (σ.obstacle? env k.index)
  | .interact i => (σ.obstacleTo? env i.element).or (σ.obstacleAmong? env i.args)
  | .wait w => (σ.obstacleAmong? env w.args).or (w.target.bind (σ.obstacleTo? env))
  | .assert a =>
    (σ.obstacle? env a.actual).or
      ((a.expected.bind (σ.obstacle? env)).or (a.message.bind (σ.obstacle? env)))
  | .script s => σ.obstacleAmong? env s.args
  | .delegate d => σ.obstacle? env (.call d.call)
  | .bind b => σ.obstacle? env b.value
  | .branch condition _ _ _ => σ.obstacle? env condition
  | .probe body fallback _ => (presenceCheck body fallback).bind (σ.obstacle? env)
  | .ret value _ => value.bind (σ.obstacle? env)
  | .pause millis _ => σ.obstacle? env millis
  | .command .. | .verbatim .. => none

mutual

def stallsAt (env : Env) (σ : Scope) : Action → Bool
  | .branch condition thenBody elseBody _ =>
    match σ.obstacle? env condition with
    | some o => o == .missing
    | none => stalls env σ thenBody || stalls env (lostIn env σ thenBody).2 elseBody
  | .probe body fallback _ =>
    match presenceCheck body fallback with
    | some presence => σ.obstacle? env presence == some .missing
    | none => stalls env σ body || stalls env (lostIn env σ body).2 fallback
  | a => actionObstacle? env σ a == some .missing

/-- Whether a body is given up for a missing element. -/
def stalls (env : Env) (σ : Scope) : List Action → Bool
  | [] => false
  | a :: rest => stallsAt env σ a || stalls env (lostInAction env σ a).2 rest

end

/-- The elements that an action names beside its values. -/
def elementsOf : Action → List ElementRef
  | .locate l => l.parent.toList
  | .pick k => [k.source]
  | .interact i => [i.element]
  | .wait w => w.target.toList
  | _ => []

/-- An action in which none of some elements is that of a field. -/
structure ActionApart (ids : List String) (a : Action) : Prop where
  values : Apart ids (partsOf a.values)
  elements : ∀ ref ∈ elementsOf a, ref.origin = .field → ref.id ∉ ids

/-! ### Single actions -/

section Actions

variable {e : Env} {u : SourceUnit} {ids : List String} {σ σ' : Scope}
variable {demoted : String → Bool} {text : String}

instance (kind : TraceKind) (p : Provenance) (fragment : String)
    (l : Option Locator) (scope : String) : Keeps Translated (trace kind p fragment l scope) := by
  unfold trace; infer_instance

theorem apart_singleton {v : Value} (h : Apart ids (partsOf [v])) : Apart ids v.parts := by
  rwa [partsOf, partsOf, List.append_nil] at h

theorem follows_lookedUp (h : Twin e ids σ σ') {l : Lookup}
    (hl : Apart ids (demoteValue demoted l.locator.value).parts)
    (hparent : ∀ ref ∈ l.parent, ref.origin = .field → ref.id ∉ ids) : Follows e (e.on u) σ σ'
      ((l.parent.bind (σ'.obstacleTo? (e.on u))).or (σ'.obstacleOf? (e.on u)
        { l.locator with value := demoteValue demoted l.locator.value }))
      (lookedUp { l with
        locator := { l.locator with value := literalValue demoted text l.locator.value } })
      (lookedUp { l with
        locator := { l.locator with value := demoteValue demoted l.locator.value } }) := by
  cases hl' : l.parent with
  | none =>
    refine .after fun f f' => Follows.after fun scope scope' => ?_
    exact (follows_locatorText h hl scope scope' l.provenance).before
  | some parent =>
    refine (follows_elementText h (hparent parent hl')).bind fun scope scope' => ?_
    exact (follows_locatorText h hl scope scope' l.provenance).before

theorem follows_interactAction (h : Twin e ids σ σ') {i : Interaction}
    (hargs : Apart ids (partsOf (demoteValues demoted i.args)))
    (helement : i.element.origin = .field → i.element.id ∉ ids) : Follows e (e.on u) σ σ'
      ((σ'.obstacleTo? (e.on u) i.element).or
        (σ'.obstacleAmong? (e.on u) (demoteValues demoted i.args)))
      (interactAction { i with args := literalValues demoted text i.args })
      (interactAction { i with args := demoteValues demoted i.args }) := by
  refine .withProfile ?_
  cases Table.get? i.op e.profile.interactions with
  | none => exact .of_refused
  | some =>
    refine (follows_elementText h helement).bind fun target target' =>
      Follows.after fun f f' => Follows.after fun _ _ => ?_
    exact (follows_values h hargs).before

/-- The same seconds can be written on both sides, or on neither. -/
theorem follows_milliseconds (seconds : Float) :
    Follows e (e.on u) σ σ' none (milliseconds seconds) (milliseconds seconds) := by
  unfold milliseconds
  split
  · exact .of_completes _ _
  · exact .of_refused
  · exact .of_refused

theorem follows_waitAction (h : Twin e ids σ σ') {w : Wait}
    (hargs : Apart ids (partsOf (demoteValues demoted w.args)))
    (htarget : ∀ ref ∈ w.target, ref.origin = .field → ref.id ∉ ids) : Follows e (e.on u) σ σ'
      ((σ'.obstacleAmong? (e.on u) (demoteValues demoted w.args)).or
        (w.target.bind (σ'.obstacleTo? (e.on u))))
      (waitAction { w with args := literalValues demoted text w.args })
      (waitAction { w with args := demoteValues demoted w.args }) := by
  refine .withProfile ?_
  cases Table.get? w.condition e.profile.waits with
  | none => exact .of_refused
  | some =>
    refine (follows_values h hargs).bind fun texts texts' => ?_
    refine (follows_milliseconds w.seconds).bind fun millis millis' => ?_
    cases htarget' : w.target with
    | none =>
      exact .of_completes _ _
    | some ref => exact (follows_elementText h (htarget ref htarget')).before

theorem follows_assertAction (h : Twin e ids σ σ') {a : Assertion}
    (ha : Apart ids (partsOf (demoteAction demoted (.assert a)).values)) :
    Follows e (e.on u) σ σ' (actionObstacle? (e.on u) σ' (demoteAction demoted (.assert a)))
      (assertAction { a with
        actual := literalValue demoted text a.actual
        expected := a.expected.map (literalValue demoted text)
        message := a.message.map (literalValue demoted text) })
      (assertAction { a with
        actual := demoteValue demoted a.actual
        expected := a.expected.map (demoteValue demoted)
        message := a.message.map (demoteValue demoted) }) := by
  obtain ⟨kind, actual, _, expected, message⟩ := a
  simp only [demoteAction, values, partsOf, apart_append] at ha
  refine .withProfile ?_
  cases Table.get? kind e.profile.asserts with
  | none => exact .of_refused
  | some =>
    refine (follows_valueText h ha.1).bind fun actualText actualText' => ?_
    cases expected with
    | none =>
      cases message with
      | none =>
        simp only [Option.map_none]
        exact .of_completes _ _
      | some message =>
        have hmessage := apart_singleton ha.2
        exact .after fun _ _ => (follows_valueText h hmessage).before
    | some expected =>
      cases message with
      | none =>
        have hexpected := apart_singleton ha.2
        simp only [Option.map_none, Option.bind_none, Option.or_none]
        exact (follows_valueText h hexpected).before
      | some message =>
        have hboth :
            Apart ids ((demoteValue demoted expected).parts ++
              (demoteValue demoted message).parts) := by
          simpa [partsOf] using ha.2
        rw [apart_append] at hboth
        refine (follows_valueText h hboth.1).bind fun _ _ => Follows.after fun _ _ => ?_
        exact (follows_valueText h hboth.2).before

theorem follows_callAction (h : Twin e ids σ σ') {d : Delegation} (hd : demoted d.call.id = false)
    (hcall : Apart ids (Value.call (d.call.withArgs (demoteValues demoted d.call.args))).parts) :
    Follows e (e.on u) σ σ'
      (σ'.obstacle? (e.on u) (.call (d.call.withArgs (demoteValues demoted d.call.args))))
      (callAction { d with call := d.call.withArgs (literalValues demoted text d.call.args) })
      (callAction { d with call := d.call.withArgs (demoteValues demoted d.call.args) }) := by
  have hliteral : literalValue demoted text (.call d.call) =
      .call (d.call.withArgs (literalValues demoted text d.call.args)) := by
    obtain ⟨⟨⟩⟩ := d
    simp_all [literalValue, Call.id, Call.withArgs, Call.args]
  have hdemote : demoteValue demoted (.call d.call) =
      .call (d.call.withArgs (demoteValues demoted d.call.args)) := by
    obtain ⟨⟨⟩⟩ := d
    simp_all [demoteValue, Call.id, Call.withArgs, Call.args]
  rw [← hdemote] at hcall
  unfold callAction
  rw [← hliteral, ← hdemote]
  exact (follows_valueText h hcall).before

theorem follows_commandAction {name : String} {args : List Value} {p : Provenance} :
    Follows e (e.on u) σ σ' none (commandAction name (literalValues demoted text args) p)
      (commandAction name (demoteValues demoted args) p) := by
  refine .withProfile ?_
  cases Table.get? name e.profile.commands with
  | none => exact .of_refused
  | some =>
    refine .ite (Follows.of_completes _ _) ?_
    cases args with
    | nil =>
      simp only [literalValues, demoteValues]
      exact .of_completes _ _
    | cons v rest =>
      cases v with
      | literal l =>
        simp only [literalValues, demoteValues, literalValue, demoteValue]
        cases secondsOf l.value with
        | error => exact .of_refused
        | ok seconds =>
          simp only [liftHalt]
          exact (follows_milliseconds seconds).before
      | call c =>
        obtain ⟨id, _, _, _, _, _, _⟩ := c
        -- What a text stands for is no number, but it does not matter here: with the call kept as
        -- text no number is asked for.
        cases hdemoted : demoted id <;>
          simp only [literalValues, demoteValues, literalValue, demoteValue, hdemoted,
            Bool.false_eq_true,
            if_true, if_false] <;>
          exact .of_completes _ _
      | elementQuery _ _ arg =>
        cases arg <;> simp only [literalValues, demoteValues, literalValue, demoteValue] <;>
          exact .of_completes _ _
      | _ =>
        simp only [literalValues, demoteValues, literalValue, demoteValue]
        exact .of_completes _ _

/-- The actions without bodies inside. -/
def isSingle : Action → Bool
  | .branch .. | .probe .. => false
  | _ => true

theorem Follows.withEnv {α β : Type} {o : Option Obstacle} {k : Env → Render α}
    {k' : Env → Render β} (h : Follows e (e.on u) σ σ' o (k e) (k' (e.on u))) :
    Follows e (e.on u) σ σ' o (read >>= k) (read >>= k') :=
  h.congr (fun _ _ => rfl) fun _ _ => rfl

/-- **A single action ends at its first obstacle**, if with texts in place of calls it can be
written. -/
theorem follows_actionLines (henv : e.strategy ≠ .inline) (h : Twin e ids σ σ')
    (splice splice' : Splicing) {a : Action} (hsingle : isSingle a = true)
    (ha : ActionApart ids (demoteAction demoted a)) :
    Follows e (e.on u) σ σ' (actionObstacle? (e.on u) σ' (demoteAction demoted a))
      (actionLines splice (literalAction demoted text a))
      (actionLines splice' (demoteAction demoted a)) := by
  obtain ⟨hvalues, helements⟩ := ha
  match a with
  | .navigate url p | .pause url p =>
    exact (follows_valueText h (apart_singleton hvalues)).before
  | .locate l =>
    simp only [literalAction, demoteAction, actionLines, locateAction_eq] at hvalues ⊢
    refine (follows_lookedUp h (apart_singleton hvalues) fun ref href => ?_).before
    exact helements ref (by simpa [demoteAction, elementsOf] using href)
  | .pick k =>
    simp only [literalAction, demoteAction, actionLines, pickAction_eq] at hvalues ⊢
    have hsource :=
      follows_elementText (u := u) h (helements k.source (by simp [demoteAction, elementsOf]))
    exact (hsource.bind fun _ _ => (follows_valueText h (apart_singleton hvalues)).before).before
  | .interact i =>
    exact follows_interactAction h hvalues
      (helements i.element (by simp [demoteAction, elementsOf]))
  | .wait w =>
    refine follows_waitAction h hvalues fun ref href => ?_
    exact helements ref (by simpa [demoteAction, elementsOf] using href)
  | .assert a =>
    exact follows_assertAction h hvalues
  | .script s =>
    exact .after fun _ _ => (follows_scriptValues h hvalues).before
  | .delegate d =>
    cases hdemoted : demoted d.call.id with
    | true =>
      have htext : Keeps Translated (valueText (.literal { value := .text text })) := by
        unfold valueText value
        infer_instance
      simp only [literalAction, demoteAction, hdemoted, if_true]
      split <;> simp only [actionLines] <;> exact .of_completes _ _
    | false =>
      simp only [literalAction, demoteAction, hdemoted] at hvalues ⊢
      refine .withEnv ?_
      simp only [henv]
      exact follows_callAction h hdemoted (apart_singleton hvalues)
  | .bind b =>
    exact (follows_valueText h (apart_singleton hvalues)).before
  | .ret none p =>
    simp only [literalAction, demoteAction, Option.map_none, actionLines]
    exact .of_completes _ _
  | .ret (some v) p =>
    exact .after fun _ _ => (follows_valueText h (apart_singleton hvalues)).before
  | .command _ _ p =>
    exact follows_commandAction
  | .verbatim text _ p =>
    simp only [literalAction, demoteAction, actionLines]
    exact .of_completes _ _
  | .branch .. | .probe .. => cases hsingle

end Actions

/-! ### Two runs of one step -/

def Gives {α : Type} (env : Env) (x : Render α) (s : State) : Prop :=
  ∃ a s', x.run env s = (.ok a, s')

/-- Wherever a step `x` gives a result, another step `y` does so exactly under a condition; `F` and
`G` are known about the two states before and behind them. -/
structure Leads (e e' : Env) (F G : State → State → Prop) (P : Prop) {α β : Type} (x : Render α)
    (y : Render β) : Prop where
  iff {s s₁ t : State} {a : α} : F s t → x.run e s = (.ok a, s₁) → (Gives e' y t ↔ P)
  ends {s s₁ t t₁ : State} {a : α} {b : β} : F s t → x.run e s = (.ok a, s₁) →
    y.run e' t = (.ok b, t₁) → G s₁ t₁

/-- What is known about two states depends only on the unit, the mode and the elements of their
frames. -/
class FrameOnly (F : State → State → Prop) : Prop where
  light {s s' t t' : State} {e e' : Option Stop} : F s t → Light s e s' → Light t e' t' → F s' t'

structure Fit (σ σ' : Scope) (s t : State) : Prop where
  left : σ.Fits s.frame
  right : σ'.Fits t.frame

instance (σ σ' : Scope) : FrameOnly (Fit σ σ') :=
  ⟨fun h hs ht => ⟨hs.fits h.left, ht.fits h.right⟩⟩

def Anywhere (_ _ : State) : Prop := True

instance : FrameOnly Anywhere := ⟨fun _ _ _ => trivial⟩

section Leads

variable {e e' : Env} {F G H : State → State → Prop} {P Q : Prop} {α β α' β' : Type}

variable {x : Render α} {y : Render α'} {f : α → Render β}

theorem Leads.congr (h : Leads e e' F G P x y) (hPQ : P ↔ Q) : Leads e e' F G Q x y :=
  ⟨fun hF hrun => (h.iff hF hrun).trans hPQ, h.ends⟩

theorem Leads.bind {g : α' → Render β'}
    (hx : Leads e e' F G P x y) (hf : ∀ a b, Leads e e' G H Q (f a) (g b)) :
    Leads e e' F H (P ∧ Q) (x >>= f) (y >>= g) where
  iff {s s₂ t c} hF hrun := by
    obtain ⟨a, s₁, hxrun, hfrun⟩ := exists_of_run_bind hrun
    constructor
    · rintro ⟨c, t₂, hrun'⟩
      obtain ⟨b, t₁, hyrun, hgrun⟩ := exists_of_run_bind hrun'
      exact ⟨(hx.iff hF hxrun).mp ⟨b, t₁, hyrun⟩,
        ((hf a b).iff (hx.ends hF hxrun hyrun) hfrun).mp ⟨c, t₂, hgrun⟩⟩
    · rintro ⟨hP, hQ⟩
      obtain ⟨b, t₁, hyrun⟩ := (hx.iff hF hxrun).mpr hP
      obtain ⟨c, t₂, hgrun⟩ := ((hf a b).iff (hx.ends hF hxrun hyrun) hfrun).mpr hQ
      exact ⟨c, t₂, (run_bind_ok hyrun).trans hgrun⟩
  ends hF hrun hrun' := by
    obtain ⟨a, s₁, hxrun, hfrun⟩ := exists_of_run_bind hrun
    obtain ⟨b, t₁, hyrun, hgrun⟩ := exists_of_run_bind hrun'
    exact (hf a b).ends (hx.ends hF hxrun hyrun) hfrun hgrun

theorem Leads.of_completes [FrameOnly F] (x : Render α) (y : Render α') [hx : Keeps Light x]
    [hy : Keeps Light y] [Keeps Completes y] : Leads e e' F F True x y where
  iff _ _ := iff_true_intro (exists_of_completes y e' _)
  ends hF hrun hrun' := FrameOnly.light hF (hx.of_run hrun) (hy.of_run hrun')

theorem Leads.after [FrameOnly F] {g : α' → Render β'} [Keeps Light x] [Keeps Light y]
    [Keeps Completes y]
    (hf : ∀ a b, Leads e e' F G P (f a) (g b)) : Leads e e' F G P (x >>= f) (y >>= g) :=
  ((Leads.of_completes x y).bind hf).congr (iff_of_eq (true_and P))

theorem Leads.before [FrameOnly G] {g : α' → Render β'} (hx : Leads e e' F G P x y)
    [∀ a, Keeps Light (f a)]
    [∀ b, Keeps Light (g b)] [∀ b, Keeps Completes (g b)] : Leads e e' F G P (x >>= f) (y >>= g) :=
  (hx.bind fun a b => Leads.of_completes (f a) (g b)).congr (iff_of_eq (and_true P))

theorem light_code (s : State) (c : Code) : Light s none { s with code := c } := ⟨_, _, rfl⟩

theorem Leads.indented [FrameOnly F] [FrameOnly G] {x y : Render Unit} (h : Leads e e' F G P x y) :
    Leads e e' F G P (indented x) (indented y) := by
  have hdeeper : ∀ {s t}, F s t →
      F { s with code := s.code.deeper } { t with code := t.code.deeper } := fun hF =>
    FrameOnly.light hF (light_code _ _) (light_code _ _)
  refine ⟨fun {s s₁ t a} hF hx => ?_, fun {s s₁ t t₁ a b} hF hx hy => ?_⟩
  · obtain ⟨s₂, hx, -⟩ := exists_of_run_indented hx
    refine Iff.trans ⟨fun ⟨b, t₁, hy⟩ => ?_, fun ⟨b, t₂, hy⟩ => ?_⟩ (h.iff (hdeeper hF) hx)
    · obtain ⟨t₂, hy, -⟩ := exists_of_run_indented hy
      exact ⟨(), t₂, hy⟩
    · refine ⟨(), { t₂ with code := t₂.code.shallower }, ?_⟩
      rw [run_indented, hy]
  · obtain ⟨s₂, hx', rfl⟩ := exists_of_run_indented hx
    obtain ⟨t₂, hy', rfl⟩ := exists_of_run_indented hy
    exact FrameOnly.light (h.ends (hdeeper hF) hx' hy') (light_code _ _) (light_code _ _)

theorem Leads.block [FrameOnly F] [FrameOnly G] {x y : Render Unit} (h : Leads e e' F G P x y) :
    Leads e e' F G P (block x) (block y) :=
  Leads.after fun _ _ => Leads.indented h.before

theorem leads_forkLines [FrameOnly F] [FrameOnly G] [FrameOnly H]
    {splice splice' : Splicing} {opening opening' turn : Phrases → String} {both : Bool}
    {first first' second second' : List Action}
    (hfirst : Leads e e' F G P (bodyLines splice first) (bodyLines splice' first'))
    (hsecond : Leads e e' G H Q (bodyLines splice second) (bodyLines splice' second'))
    (hempty : second'.isEmpty = second.isEmpty) :
    Leads e e' F H (P ∧ Q) (forkLines splice opening turn both first second)
      (forkLines splice' opening' turn both first' second') := by
  refine .after fun _ _ => Leads.after fun _ _ => hfirst.block.bind fun _ _ => ?_
  rw [hempty]
  split
  · exact .after fun _ _ => Leads.after fun _ _ => hsecond.block.before
  · obtain ⟨rfl, rfl⟩ : second = [] ∧ second' = [] := by
      cases second <;> cases second' <;> simp_all
    exact (hsecond.bind fun _ _ => Leads.of_completes closeBlock closeBlock).congr
      (iff_of_eq (and_true Q))

end Leads

/-! ### What becomes a comment -/

section Guarded

variable {e e' : Env} {o : Option Obstacle}

variable {y : Render Unit} {t s s₁ : State} {σ σ' : Scope} {α β : Type} {f : α → Render β}
variable {G : State → State → Prop} {P : Prop} {x : Render α}

theorem gives_guarded_of_verdict
    (h : verdict (y.run e t).1 = some o) : Gives e (guarded y) t ↔ o ≠ some .missing := by
  unfold Gives
  rw [run_guarded]
  rcases hrun : y.run e t with ⟨stop | b, t₁⟩ <;> rw [hrun] at h
  · cases stop with
    | untranslatable text =>
      cases h
      simpa using exists_of_completes (untranslated text) e t₁
    | refused r =>
      cases h
      simp
    | halted => cases h
  · cases h
    simp

/-- A guarded step that follows another is given up only for a missing element. -/
theorem Follows.guarded_iff {x : Render Unit} (h : Follows e e' σ σ' o x y) (hfit : Fit σ σ' s t)
    (hrun : (guarded x).run e s = (.ok (), s₁)) : Gives e' (guarded y) t ↔ o ≠ some .missing := by
  rcases run_guarded_cases hrun with hok | ⟨_, _, hstop, -⟩
  · exact gives_guarded_of_verdict (h.ok hfit.left hfit.right hok)
  · exact gives_guarded_of_verdict (h.untranslatable hfit.left hfit.right hstop).2

/-- A guarded step that has a target form gives a result exactly if it does so without the guard. -/
theorem gives_guarded_iff (h : ∀ text t₁, y.run e t ≠ (.error (.untranslatable text), t₁)) :
    Gives e (guarded y) t ↔ Gives e y t := by
  unfold Gives
  rw [run_guarded]
  rcases hrun : y.run e t with ⟨stop | b, t₁⟩
  · cases stop with
    | untranslatable text => exact absurd hrun (h text t₁)
    | refused r => rfl
    | halted => rfl
  · rfl

/-- Where one step gives a result and the next never lacks a target form, both together do not. -/
theorem ne_untranslatable_of_gives
    [hf : ∀ a, Keeps Translated (f a)] (h : Gives e x t) (text : String) (t₁ : State) :
    (x >>= f).run e t ≠ (.error (.untranslatable text), t₁) := by
  obtain ⟨a, _, hrun⟩ := h
  rw [run_bind_ok hrun]
  exact fun hstop => (hf a).of_run hstop text rfl

/-- The guard does not change steps that never lack a target form. -/
theorem Leads.guarded_iff {F : State → State → Prop} {x : Render Unit}
    [hx : Keeps Translated x] [hy : Keeps Translated y] (h : Leads e e' F G P x y)
    (hF : F s t) (hrun : (guarded x).run e s = (.ok (), s₁)) : Gives e' (guarded y) t ↔ P := by
  rcases run_guarded_cases hrun with hok | ⟨text, _, hstop, -⟩
  · rw [gives_guarded_iff fun text _ hstop => hy.of_run hstop text rfl]
    exact h.iff hF hok
  · exact absurd rfl (hx.of_run hstop text)

/-- A guarded fork on a value without an obstacle is given up if one of its sides is. -/
theorem Follows.guardedFork_iff {y : Render β} {f : α → Render Unit} {g : β → Render Unit}
    [Keeps Light x] [Keeps Light y] [hf : ∀ a, Keeps Translated (f a)] [∀ b, Keeps Translated (g b)]
    (h : Follows e e' σ σ' none x y) (hfork : ∀ a b, Leads e e' (Fit σ σ') G P (f a) (g b))
    (hfit : Fit σ σ' s t) (hrun : (guarded (x >>= f)).run e s = (.ok (), s₁)) :
    Gives e' (guarded (y >>= g)) t ↔ P := by
  have hx : Leads e e' (Fit σ σ') (Fit σ σ') True x y :=
    ⟨fun hfit hrun => iff_true_intro
        (exists_of_verdict_none (h.ok hfit.left hfit.right hrun)),
      fun hfit hrun hrun' => FrameOnly.light hfit ((inferInstance : Keeps Light x).of_run hrun)
        ((inferInstance : Keeps Light y).of_run hrun')⟩
  have hall := (hx.bind hfork).congr (iff_of_eq (true_and P))
  rcases run_guarded_cases hrun with hok | ⟨text, s₂, hstop, -⟩
  · obtain ⟨a, s₂, hxrun, -⟩ := exists_of_run_bind hok
    have hgives := (hx.iff hfit hxrun).mpr trivial
    rw [gives_guarded_iff (ne_untranslatable_of_gives hgives)]
    exact hall.iff hfit hok
  · -- Only the value could lack a target form, but then there would be an obstacle.
    rcases hxrun : x.run e s with ⟨_ | a, _⟩
    · rw [run_bind_error hxrun] at hstop
      cases hstop
      exact absurd rfl (h.untranslatable hfit.left hfit.right hxrun).1
    · rw [run_bind_ok hxrun] at hstop
      exact absurd rfl ((hf a).of_run hstop text)

theorem Follows.stopped {α' β' : Type} {o : Obstacle} {y : Render α'} {g : α' → Render β'}
    [hf : ∀ a, Keeps Translated (f a)]
    (h : Follows e e' σ σ' (some o) x y) : Follows e e' σ σ' (some o) (x >>= f) (y >>= g) := by
  refine h.extend fun {t} hverdict => ?_
  rcases hrun : y.run e' t with ⟨stop | b, _⟩ <;> rw [hrun] at hverdict
  · rw [run_bind_error hrun]
    cases stop <;> exact hverdict
  · cases hverdict

/-- What is done about an action, but for counting a wait. -/
theorem exists_run_bodyStep (splice : Splicing) (a : Action) (env : Env) (s : State) :
    ∃ s', s'.frame = s.frame ∧ (bodyStep splice a).run env s = (guarded (do
      actionLines splice a
      if !keepsCleared a then modifyFrame fun f => { f with cleared := [] })).run env s' := by
  unfold bodyStep
  cases a.isWait with
  | true => exact ⟨{ s with session := { s.session with waits := s.session.waits + 1 } }, rfl, rfl⟩
  | false => exact ⟨s, rfl, rfl⟩

end Guarded

/-! ### Bodies -/

section Bodies

variable {e : Env} {u : SourceUnit} {ids : List String}
variable {demoted : String → Bool} {text : String}

variable {body : List Action} {σ σ' : Scope} {splice splice' : Splicing} {a a' : Action}

theorem isEmpty_demoteActions (body : List Action) :
    (demoteActions demoted body).isEmpty = (literalActions demoted text body).isEmpty := by
  cases body <;> simp [demoteActions, literalActions]

/-- A body in twin scopes: what it looks up is among some elements, none of which is that of a
field. -/
structure BodyApart (ids : List String) (body : List Action) : Prop where
  lookups : ∀ id ∈ lookupIds body, id ∈ ids
  actions : ∀ a ∈ all body, ActionApart ids a

theorem BodyApart.append {body' : List Action}
    (hlookups : ∀ id ∈ (all body ++ all body').filterMap lookupId?, id ∈ ids)
    (hactions : ∀ a ∈ all body ++ all body', ActionApart ids a) :
    BodyApart ids body ∧ BodyApart ids body' := by
  rw [List.filterMap_append, List.forall_mem_append] at hlookups
  rw [List.forall_mem_append] at hactions
  exact ⟨⟨hlookups.1, hactions.1⟩, ⟨hlookups.2, hactions.2⟩⟩

/-- A step in twin scopes goes on in the scopes known from the waits. -/
theorem Leads.of_guarded (henv : e.strategy ≠ .inline) {P : Prop}
    (h : ∀ {s s₁ t : State}, Fit σ σ' s t →
      (guarded (do
        actionLines splice a
        if !keepsCleared a then modifyFrame fun f => { f with cleared := [] })).run e s =
          (.ok (), s₁) →
      (Gives (e.on u) (guarded (do
        actionLines splice' a'
        if !keepsCleared a' then modifyFrame fun f => { f with cleared := [] })) t ↔ P)) :
    Leads e (e.on u) (Fit σ σ') (Fit (lostInAction e σ a).2 (lostInAction (e.on u) σ' a').2) P
      (bodyStep splice a) (bodyStep splice' a') where
  iff {s s₁ t _} hfit hrun := by
    obtain ⟨_, hs, hstep⟩ := exists_run_bodyStep splice a e s
    obtain ⟨_, ht, hstep'⟩ := exists_run_bodyStep splice' a' (e.on u) t
    rw [hstep] at hrun
    rw [Gives, hstep']
    exact h ⟨hs ▸ hfit.left, ht ▸ hfit.right⟩ hrun
  ends hfit hrun hrun' := by
    have henv' : (e.on u).strategy ≠ .inline := henv
    exact ⟨(Ledger.part_bodyStep (waitListing henv splice) a hfit.left hrun).fits,
      (Ledger.part_bodyStep (waitListing henv' splice') a' hfit.right hrun').fits⟩

/-- A single action is given up if its first obstacle is a missing element. -/
theorem leads_single (henv : e.strategy ≠ .inline) {o : Option Obstacle}
    (h : Follows e (e.on u) σ σ' o (actionLines splice a) (actionLines splice' a')) :
    Leads e (e.on u) (Fit σ σ') (Fit (lostInAction e σ a).2 (lostInAction (e.on u) σ' a').2)
      (o ≠ some .missing) (bodyStep splice a) (bodyStep splice' a') :=
  Leads.of_guarded henv fun hfit hrun => h.before.guarded_iff hfit hrun

theorem BodyApart.presence {fallback : List Action} {presence : Value}
    (h : BodyApart ids body) (hpresence : presenceCheck body fallback = some presence) :
    Apart ids presence.parts := by
  obtain ⟨_, _, p, l, q, rfl, -, -, rfl⟩ := presenceCheck_eq_some_iff.mp hpresence
  exact apart_singleton (h.actions _ List.mem_cons_self).values

theorem mem_nested_self (a : Action) : a ∈ a.nested := by
  cases a <;> exact List.mem_cons_self

theorem isSingle_demoteAction (h : isSingle a = true) :
    isSingle (demoteAction demoted a) = true := by
  cases a with
  | delegate d =>
    simp only [demoteAction]
    split <;> rfl
  | branch | probe => cases h
  | _ => simp only [demoteAction, isSingle]

theorem stallsAt_of_single {env : Env} (h : isSingle a = true) :
    stallsAt env σ a = (actionObstacle? env σ a == some .missing) := by
  cases a with
  | branch | probe => cases h
  | _ => simp only [stallsAt]

mutual

theorem leads_bodyStep (henv : e.strategy ≠ .inline) {σ σ' : Scope} (h : Twin e ids σ σ')
    (splice splice' : Splicing) (a : Action)
    (hlookups : ∀ id ∈ (demoteAction demoted a).nested.filterMap lookupId?, id ∈ ids)
    (hactions : ∀ b ∈ (demoteAction demoted a).nested, ActionApart ids b) :
    Leads e (e.on u) (Fit σ σ')
      (Fit (lostInAction e σ (literalAction demoted text a)).2
        (lostInAction (e.on u) σ' (demoteAction demoted a)).2)
      (stallsAt (e.on u) σ' (demoteAction demoted a) = false)
      (bodyStep splice (literalAction demoted text a))
        (bodyStep splice' (demoteAction demoted a)) := by
  cases a with
  | branch condition thenBody elseBody p =>
    rw [demoteAction, nested] at hlookups hactions
    obtain ⟨hself, hactions⟩ := List.forall_mem_cons.mp hactions
    obtain ⟨hthen, helse⟩ := BodyApart.append hlookups hactions
    have hcondition : Follows e (e.on u) σ σ' _
        (valueText (literalValue demoted text condition)) _ :=
      follows_valueText h (apart_singleton hself.values)
    simp only [literalAction, demoteAction]
    rw [stallsAt]
    cases hobstacle : σ'.obstacle? (e.on u) (demoteValue demoted condition) with
    | some o =>
      rw [hobstacle] at hcondition
      refine (leads_single henv (o := some o) ?_).congr (by cases o <;> simp)
      rw [actionLines_branch, actionLines_branch]
      exact hcondition.stopped
    | none =>
      rw [hobstacle] at hcondition
      refine .of_guarded henv fun hfit hrun => ?_
      rw [actionLines_branch, bind_assoc] at hrun ⊢
      rw [Bool.or_eq_false_iff]
      exact hcondition.guardedFork_iff (fun _ _ => (leads_forkLines
        (leads_bodyLines henv h splice splice' thenBody hthen)
        (leads_bodyLines henv (twin_lostIn h thenBody hthen.lookups) splice splice' elseBody helse)
        (isEmpty_demoteActions elseBody)).before) hfit hrun
  | probe body fallback p =>
    rw [demoteAction, nested] at hlookups hactions
    obtain ⟨hbody, hfallback⟩ := BodyApart.append hlookups (List.forall_mem_cons.mp hactions).2
    simp only [literalAction, demoteAction]
    rw [stallsAt]
    have hpresence : presenceCheck (literalActions demoted text body)
        (literalActions demoted text fallback) = _ := presenceCheck_literalActions body fallback
    have hpresence' : presenceCheck (demoteActions demoted body) (demoteActions demoted fallback) =
        _ :=
      presenceCheck_demoteActions body fallback
    rw [hpresence']
    cases hcheck : presenceCheck body fallback with
    | some presence =>
      rw [hcheck] at hpresence hpresence'
      have hvalue : Apart ids (demoteValue demoted presence).parts := hbody.presence hpresence'
      refine (leads_single henv
        (o := σ'.obstacle? (e.on u) (demoteValue demoted presence)) ?_).congr (by simp)
      rw [actionLines, hpresence, actionLines, hpresence']
      exact .after fun _ _ => (follows_valueText h hvalue).before
    | none =>
      rw [hcheck] at hpresence hpresence'
      refine .of_guarded henv fun hfit hrun => ?_
      rw [actionLines_probe p hpresence] at hrun
      rw [actionLines_probe p hpresence', Option.map_none, Bool.or_eq_false_iff]
      exact (leads_forkLines (leads_bodyLines henv h splice splice' body hbody)
        (leads_bodyLines henv (twin_lostIn h body hbody.lookups) splice splice' fallback hfallback)
        (isEmpty_demoteActions fallback)).before.guarded_iff hfit hrun
  | _ =>
    rw [stallsAt_of_single (isSingle_demoteAction rfl)]
    refine (leads_single henv (follows_actionLines henv h splice splice' rfl
      (hactions _ (mem_nested_self _)))).congr ?_
    simp

theorem leads_bodyLines (henv : e.strategy ≠ .inline) {σ σ' : Scope} (h : Twin e ids σ σ')
    (splice splice' : Splicing) (body : List Action)
    (hbody : BodyApart ids (demoteActions demoted body)) : Leads e (e.on u) (Fit σ σ')
      (Fit (lostIn e σ (literalActions demoted text body)).2
        (lostIn (e.on u) σ' (demoteActions demoted body)).2)
      (stalls (e.on u) σ' (demoteActions demoted body) = false)
      (bodyLines splice (literalActions demoted text body))
      (bodyLines splice' (demoteActions demoted body)) := by
  match body with
  | [] =>
    simp only [literalActions, demoteActions, bodyLines_nil, lostIn, stalls]
    exact (Leads.of_completes _ _).congr (by simp)
  | a :: rest =>
    obtain ⟨hlookups, hactions⟩ := hbody
    rw [demoteActions, lookupIds_cons, List.forall_mem_append] at hlookups
    rw [demoteActions, all, List.forall_mem_append] at hactions
    have hfirst := leads_bodyStep henv h splice splice' a hlookups.1 hactions.1
    simp only [literalActions, demoteActions, bodyLines_cons, lostIn, stalls]
    refine (hfirst.bind fun _ _ => leads_bodyLines henv (twin_lostInAction h a hlookups.1) splice
      splice' rest ⟨hlookups.2, hactions.2⟩).congr ?_
    rw [Bool.or_eq_false_iff]

end

end Bodies

end TestMigration.Rendering
