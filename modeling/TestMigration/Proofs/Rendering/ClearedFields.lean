import TestMigration.Profile.Builtin
import TestMigration.Proofs.Rendering.Walks
/-!
# Fields that are taken for empty

Typing into a field appends, filling it replaces. The two come to the same only in an empty field,
so typing is written as filling only into fields that rendering takes for empty. A field is known to
be empty at a place if every run that gets there has cleared it, and has since met nothing that
could have put something in it (`KnownEmpty`).

What rendering takes for granted is a list that goes with the text, not with the runs, and changes
once an action has been written. A field can be in it without being known to be empty in three ways
(`Misled`):

* rendering starts with a list that is not empty;
* an action that might have changed the page has no target form: it becomes a comment, and the list
  stays;
* the second side of a fork is entered, and what the first side has cleared is still in the list.

There is no other way: where typing is written as filling, the field is known to be empty exactly if
rendering has not been misled (`filled_fields_known_empty_iff`). The proof walks along with
rendering, and says of each stride what it does to the list and to the knowledge.
-/

namespace TestMigration.Rendering

open TestMigration.Action Text Profile

/-! ### What is known of a field -/

namespace Event

def Clears (e : String) (v : Event) : Prop :=
  v.target = some e ∧ ∃ i, v.action = .interact i ∧ i.op = "clear"

/-- A field is left alone: something is done to another element, or cannot change a field. -/
def Leaves (e : String) (v : Event) : Prop :=
  match v.action with
  | .interact _ => v.target ≠ some e
  | .wait _ | .assert _ | .pause .. | .ret .. => True
  | _ => False

def Spoils (e : String) (v : Event) : Prop := ¬v.Clears e ∧ ¬v.Leaves e

end Event

/-- A field is known to be empty: it has been cleared, and left alone since. -/
def KnownEmpty (e : String) (es : List Event) : Prop :=
  ∃ before v after, es = before ++ v :: after ∧ v.Clears e ∧ ∀ u ∈ after, u.Leaves e

section KnownEmpty

variable {e : String} {es : List Event} {v : Event}

theorem not_knownEmpty_nil : ¬KnownEmpty e [] := by
  rintro ⟨before, v, _, h, -, -⟩
  cases before <;> cases h

theorem knownEmpty_snoc : KnownEmpty e (es ++ [v]) ↔ v.Clears e ∨ v.Leaves e ∧ KnownEmpty e es := by
  constructor
  · rintro ⟨before, u, after, h, hclears, hleaves⟩
    rcases List.eq_nil_or_concat after with rfl | ⟨after, _, rfl⟩
    · obtain ⟨-, hlast⟩ := List.append_inj' h rfl
      cases hlast
      exact .inl hclears
    · rw [List.concat_eq_append] at h hleaves
      rw [← List.cons_append, ← List.append_assoc] at h
      obtain ⟨hinit, hlast⟩ := List.append_inj' h rfl
      cases hlast
      obtain ⟨hafter, hlast⟩ := List.forall_mem_append.mp hleaves
      exact .inr ⟨List.forall_mem_singleton.mp hlast, before, u, after, hinit, hclears, hafter⟩
  · rintro (hclears | ⟨hleaves, before, u, after, rfl, hclears, hafter⟩)
    · exact ⟨es, v, [], rfl, hclears, nofun⟩
    · refine ⟨before, u, after ++ [v], by simp, hclears, List.forall_mem_append.mpr ⟨hafter, ?_⟩⟩
      exact List.forall_mem_singleton.mpr hleaves

theorem not_knownEmpty_of_spoils (h : v.Spoils e) : ¬KnownEmpty e (es ++ [v]) := by
  rw [knownEmpty_snoc]
  rintro (hclears | ⟨hleaves, -⟩)
  · exact h.1 hclears
  · exact h.2 hleaves

/-- A field does not become known to be empty as long as nothing is done to it. -/
theorem not_knownEmpty_of_target_ne (h : v.target ≠ some e) (hes : ¬KnownEmpty e es) :
    ¬KnownEmpty e (es ++ [v]) := by
  rw [knownEmpty_snoc]
  rintro (hclears | ⟨-, hknown⟩)
  · exact h hclears.1
  · exact hes hknown

end KnownEmpty

/-! ### What rendering takes for granted -/

section Cleared

variable {env : Env} {splice : Splicing} {s s' : State}

/-- What is written for something done to an element, from its text and a template. -/
def interactWith (i : Interaction) (target template : String) : Render Unit := do
  modifyFrame fun f =>
    { f with
      cleared :=
        if i.op == "clear" then insertNew target f.cleared else f.cleared.filter (· != target) }
  let args ← valueList fieldText i.args
  emitLine i.provenance
    (fill template ([("element", target), ("page", (← frame).page)] ++ argValues args))

variable {i : Interaction} {e : String} {a : Action}

/-- Something done to an element that has a target form. Typing is filling if the field is taken for
empty. -/
theorem run_interactAction {template : String} {s₁ : State}
    (htemplate : Table.get? i.op env.profile.interactions = some template)
    (htarget : (elementText i.element).run env s = (.ok e, s₁)) : (interactAction i).run env s =
      (interactWith i e
        (if i.op == "sendKeys" && s.frame.cleared.contains e then
          (Table.get? "fill" env.profile.interactions).getD template
        else template)).run env s₁ := by
  have hframe := (Keeps.of_run (R := Quiet) htarget).frame
  unfold interactAction
  rw [run_bind_ok run_profile]
  simp only [htemplate]
  rw [run_bind_ok htarget, run_bind_ok run_frame, hframe]
  rfl

/-- The fields taken for empty after something is done to an element. -/
theorem cleared_interactWith (i : Interaction) (target template : String) :
    ((interactWith i target template).run env s).2.frame.cleared =
      if i.op == "clear" then insertNew target s.frame.cleared
      else s.frame.cleared.filter (· != target) := by
  have hrest : Keeps Quiet (do
      let args ← valueList fieldText i.args
      emitLine i.provenance
        (fill template ([("element", target), ("page", (← frame).page)] ++ argValues args))) :=
    inferInstance
  unfold interactWith
  rw [run_bind_ok (a := ()) rfl, (hrest.out env _).frame]

theorem bodyStep_interact (splice : Splicing) (i : Interaction) :
    bodyStep splice (.interact i) = guarded (interactAction i) := by
  exact congrArg guarded (bind_pure_unit ..)

/-- A passed interaction, written or not, leaves the frame that writing it has left. -/
theorem frame_bodyStep_interact (hrun : (bodyStep splice (.interact i)).run env s = (.ok (), s')) :
    s'.frame = ((interactAction i).run env s).2.frame := by
  rw [bodyStep_interact] at hrun
  rcases run_guarded_cases hrun with hok | ⟨text, _, hstop, hcomment⟩
  · rw [hok]
  · rw [hstop]
    exact ((keeps_untranslated text).of_run hcomment).frame

/-- Something done to an element without a target form clears no field. -/
theorem cleared_of_targetText_none (htarget : targetText env s (.interact i) = none)
    (hrun : (bodyStep splice (.interact i)).run env s = (.ok (), s')) :
    s'.frame.cleared = s.frame.cleared := by
  rw [frame_bodyStep_interact hrun]
  unfold interactAction
  rw [run_bind_ok run_profile]
  cases Table.get? i.op env.profile.interactions with
  | none => rfl
  | some =>
    rcases helement : (elementText i.element).run env s with ⟨_ | e, _⟩
    · rw [run_bind_error helement]
      exact congrArg Frame.cleared (Keeps.of_run (R := Quiet) helement).frame
    · simp [targetText, helement] at htarget

theorem cleared_of_targetText {x : String} (htarget : targetText env s (.interact i) = some x)
    (hrun : (bodyStep splice (.interact i)).run env s = (.ok (), s')) : s'.frame.cleared =
      if i.op == "clear" then insertNew x s.frame.cleared else s.frame.cleared.filter (· != x) := by
  rw [frame_bodyStep_interact hrun]
  rcases helement : (elementText i.element).run env s with ⟨_ | e, _⟩
  · simp [targetText, helement] at htarget
  · obtain rfl : e = x := by simpa [targetText, helement] using htarget
    have hframe := (Keeps.of_run (R := Quiet) helement).frame
    cases htemplate : Table.get? i.op env.profile.interactions with
    | none =>
      -- Without a template the interaction is refused, so it is not passed.
      have hrefused : ∃ r, (interactAction i).run env s = (.error (.refused r), s) := by
        unfold interactAction
        rw [run_bind_ok run_profile]
        simp only [htemplate]
        exact ⟨_, rfl⟩
      obtain ⟨r, hrefused⟩ := hrefused
      rw [bodyStep_interact, run_guarded, hrefused] at hrun
      cases hrun
    | some =>
      rw [run_interactAction htemplate helement, cleared_interactWith, hframe]

/-- Other actions than interactions that cannot change a field leave the frame alone. -/
theorem frame_of_keepsCleared (hkeeps : keepsCleared a = true)
    (hinteract : ∀ i, a ≠ .interact i) (hrun : (bodyStep splice a).run env s = (.ok (), s')) :
    s'.frame = s.frame := by
  have hquiet : ∀ {a : Action}, a.isWait = false → keepsCleared a = true →
      Keeps Quiet (actionLines splice a) → (bodyStep splice a).run env s = (.ok (), s') →
      s'.frame = s.frame := by
    intro a hwait hkeeps _ hrun
    have hstep : Keeps Quiet (bodyStep splice a) := by
      rw [bodyStep_of_not_wait hwait]
      simp only [hkeeps, Bool.not_true, Bool.false_eq_true, if_false]
      infer_instance
    exact (hstep.of_run hrun).frame
  cases a with
  | interact i => exact absurd rfl (hinteract i)
  | wait w =>
    have hwaited := run_bodyStep_wait splice w env s
    rw [hrun] at hwaited
    exact hwaited.frame
  | assert | pause => exact hquiet rfl rfl (by unfold actionLines; infer_instance) hrun
  | ret value p =>
    refine hquiet rfl rfl ?_ hrun
    cases value <;> (unfold actionLines; infer_instance)
  | _ => cases hkeeps

/-- **What a field that is taken for empty owes to the last action**: that has become a comment and
might have spoilt the field, or has cleared it, or leaves it alone and it was taken for empty
before. -/
theorem cases_of_mem_cleared
    (hrun : (bodyStep splice a).run env s = (.ok (), s')) (he : e ∈ s'.frame.cleared) :
    (Lapses env splice s a ∧ Event.Spoils e ⟨a, targetText env s a⟩) ∨
      forkOf a = none ∧ (Event.Clears e ⟨a, targetText env s a⟩ ∨
        Event.Leaves e ⟨a, targetText env s a⟩ ∧ e ∈ s.frame.cleared) := by
  -- Interactions change the list themselves, even if they lapse later; the other actions leave it,
  -- or have it emptied once they have been written.
  by_cases hinteract : ∃ i, a = .interact i
  · obtain ⟨i, rfl⟩ := hinteract
    refine .inr ⟨rfl, ?_⟩
    cases htarget : targetText env s (.interact i) with
    | none =>
      rw [cleared_of_targetText_none htarget hrun] at he
      exact .inr ⟨nofun, he⟩
    | some x =>
      rw [cleared_of_targetText htarget hrun] at he
      by_cases hx : x = e
      · subst hx
        by_cases hclear : i.op = "clear"
        · exact .inl ⟨rfl, i, rfl, hclear⟩
        · simp [hclear] at he
      · refine .inr ⟨fun h => hx (Option.some.inj h), ?_⟩
        split at he
        · rcases mem_insertNew.mp he with hold | rfl
          · exact hold
          · exact absurd rfl hx
        · exact (List.mem_filter.mp he).1
  · have hother : ∀ i, a ≠ .interact i := fun i hi => hinteract ⟨i, hi⟩
    cases hkeeps : keepsCleared a with
    | true =>
      rw [frame_of_keepsCleared hkeeps hother hrun] at he
      refine .inr ⟨?_, .inr ⟨?_, he⟩⟩
      · cases a <;> first | rfl | cases hkeeps
      · cases a <;> first | exact absurd rfl (hother _) | exact trivial | cases hkeeps
    | false =>
      have hwait : a.isWait = false := by cases a <;> first | rfl | cases hkeeps
      rcases run_actionLines_or_lapses hwait hrun with ⟨_, -, hcleared⟩ | hlapses
      · rw [hcleared, hkeeps] at he
        cases he
      · refine .inl ⟨hlapses, ?_, ?_⟩
        · rintro ⟨-, i, hi, -⟩
          exact hother i hi
        · cases a <;> first | exact id | cases hkeeps

end Cleared

/-! ### How rendering is misled -/

/-- How rendering comes to take a field for empty that is not known to be: it starts that way, an
action that might spoil the field has become a comment, or the second side of a fork has been
entered where the field is not known to be empty. Since then no fork has been passed, and nothing
has been done to the field. -/
inductive Misled (env : Env) (splice : Splicing) (start : Place) (e : String) :
    List Stride → Place → Prop
  | start (h : e ∈ start.state.frame.cleared) : Misled env splice start e [] start
  | lapse {w : List Stride} {es : List Event} {s s' : State} {a : Action} {rest : List Action}
    (hwalk : Walk env splice start w es ⟨s, a :: rest⟩) (hlapses : Lapses env splice s a)
    (hspoils : Event.Spoils e ⟨a, targetText env s a⟩)
    (hrun : (bodyStep splice a).run env s = (.ok (), s')) :
    Misled env splice start e (w ++ [.pass]) ⟨s', rest⟩
  | turn {w : List Stride} {es : List Event} {s t : State} {a : Action}
      {rest : List Action} {f : Fork}
    (hwalk : Walk env splice start w es ⟨s, a :: rest⟩) (hunknown : ¬KnownEmpty e es)
    (hfork : forkOf a = some f) (henter : (f.enter splice .second).run env s = (.ok (), t)) :
    Misled env splice start e (w ++ [.enter .second]) ⟨t, f.second⟩
  | pass {w : List Stride} {s s' : State} {a : Action} {rest : List Action}
    (h : Misled env splice start e w ⟨s, a :: rest⟩) (hfork : forkOf a = none)
    (htarget : targetText env s a ≠ some e) (hrun : (bodyStep splice a).run env s = (.ok (), s')) :
    Misled env splice start e (w ++ [.pass]) ⟨s', rest⟩
  | enter {w : List Stride} {s t : State} {a : Action} {rest : List Action} {f : Fork} {side : Side}
    (h : Misled env splice start e w ⟨s, a :: rest⟩) (hfork : forkOf a = some f)
    (henter : (f.enter splice side).run env s = (.ok (), t)) :
    Misled env splice start e (w ++ [.enter side]) ⟨t, f.side side⟩

section Misled

variable {env : Env} {splice : Splicing} {start place : Place} {e : String}
variable {w : List Stride}
variable {s : State} {a : Action} {es : List Event}

/-- Where rendering is misled, some run does not know the field to be empty. -/
theorem Misled.exists_walk (h : Misled env splice start e w place) :
    ∃ es, Walk env splice start w es place ∧ ¬KnownEmpty e es := by
  induction h with
  | start => exact ⟨[], .start, not_knownEmpty_nil⟩
  | lapse hwalk hlapses hspoils hrun =>
    exact ⟨_, hwalk.pass hrun (.whole (.inr hlapses)), not_knownEmpty_of_spoils hspoils⟩
  | turn hwalk hunknown hfork henter => exact ⟨_, hwalk.enter hfork henter, hunknown⟩
  | pass _ hfork htarget hrun ih =>
    obtain ⟨es, hwalk, hunknown⟩ := ih
    exact ⟨_, hwalk.pass hrun (.whole (.inl hfork)), not_knownEmpty_of_target_ne htarget hunknown⟩
  | enter _ hfork henter ih =>
    obtain ⟨es, hwalk, hunknown⟩ := ih
    exact ⟨es, hwalk.enter hfork henter, hunknown⟩

theorem Passed.eq_of_forkOf
    (h : Passed env splice s a es) (hfork : forkOf a = none) : es = [⟨a, targetText env s a⟩] := by
  cases h with
  | whole => rfl
  | fork hsome => rw [hfork] at hsome; cases hsome

/-- The first side of a fork starts in the same frame. -/
theorem frame_enter_first {t : State} {f : Fork} (hfork : forkOf a = some f)
    (henter : (f.enter splice .first).run env s = (.ok (), t)) : t.frame = s.frame := by
  have hopening : Keeps Quiet f.opening := by
    cases a with
    | branch _ _ _ p =>
      cases hfork
      infer_instance
    | probe _ _ p =>
      rw [forkOf] at hfork
      split at hfork
      · cases hfork
      · cases hfork
        infer_instance
    | _ => cases hfork
  have hquiet : Keeps Quiet (f.enter splice .first) := by unfold Fork.enter; infer_instance
  exact (hquiet.of_run henter).frame

theorem Event.Leaves.targetText_ne
    (h : Event.Leaves e ⟨a, targetText env s a⟩) : targetText env s a ≠ some e := by
  cases a with
  | interact i => exact h
  | _ => nofun

/-- Where rendering takes a field for empty that a run does not, it is misled. -/
theorem misled_of_walk (h : Walk env splice start w es place)
    (he : e ∈ place.state.frame.cleared) (hunknown : ¬KnownEmpty e es) :
    Misled env splice start e w place := by
  induction h with
  | start => exact .start he
  | pass hwalk hrun hpassed ih =>
    rcases cases_of_mem_cleared hrun he with ⟨hlapses, hspoils⟩ | ⟨hfork, hevent⟩
    · exact .lapse hwalk hlapses hspoils hrun
    · rw [hpassed.eq_of_forkOf hfork, knownEmpty_snoc] at hunknown
      rcases hevent with hclears | ⟨hleaves, hbefore⟩
      · exact absurd (.inl hclears) hunknown
      · have hmisled := ih hbefore fun hknown => hunknown (.inr ⟨hleaves, hknown⟩)
        exact hmisled.pass hfork hleaves.targetText_ne hrun
  | @enter w es s t a _ f side hwalk hfork henter ih =>
    cases side with
    | first =>
      rw [frame_enter_first hfork henter] at he
      exact (ih he hunknown).enter hfork henter
    | second =>
      -- What the first side has cleared does not matter: the run has not been there.
      exact .turn hwalk hunknown hfork henter

/-- A field taken for empty is known to be empty unless rendering is misled. -/
theorem knownEmpty_iff_not_misled (he : e ∈ place.state.frame.cleared) :
    (∀ es, Walk env splice start w es place → KnownEmpty e es) ↔
      ¬Misled env splice start e w place := by
  constructor
  · intro hknown hmisled
    obtain ⟨es, hwalk, hunknown⟩ := hmisled.exists_walk
    exact hunknown (hknown es hwalk)
  · intro hmisled es hwalk
    exact Classical.byContradiction fun hunknown => hmisled (misled_of_walk hwalk he hunknown)

end Misled

/-! ### The main result -/

/-- **Typing is written as filling into fields that are known to be empty, unless rendering is
misled.** If a body is rendered, each typing in it stands inside of a branch that becomes a comment,
or rendering comes to it. Then, if the element has a target form, typing is written with the
template for filling exactly if the field is taken for empty; and every run that gets there knows
the field to be empty exactly if rendering is not misled. -/
theorem filled_fields_known_empty_iff {env : Env} {splice : Delegation → Render Unit}
    {filling typing : String} (hfilling : Table.get? "fill" env.profile.interactions = some filling)
    (htyping : Table.get? "sendKeys" env.profile.interactions = some typing) {body : List Action}
    {s s' : State} (hrun : (bodyLines splice body).run env s = (.ok (), s')) {w : List Stride}
    {i : Interaction} {rest : List Action} (hplace : restAt body w = some (.interact i :: rest))
    (hop : i.op = "sendKeys") :
    Hidden env splice ⟨s, body⟩ w ∨
      ∃ es t, Walk env splice ⟨s, body⟩ w es ⟨t, .interact i :: rest⟩ ∧
        ∀ e t₁, (elementText i.element).run env t = (.ok e, t₁) → (interactAction i).run env t =
              (interactWith i e (if e ∈ t.frame.cleared then filling else typing)).run env t₁ ∧
            (e ∈ t.frame.cleared →
              ((∀ es, Walk env splice ⟨s, body⟩ w es ⟨t, .interact i :: rest⟩ → KnownEmpty e es) ↔
                ¬Misled env splice ⟨s, body⟩ e w ⟨t, .interact i :: rest⟩)) := by
  rcases exists_walk_or_hidden hrun hplace with ⟨es, t, hwalk⟩ | hhidden
  · refine .inr ⟨es, t, hwalk, fun e t₁ htarget => ⟨?_, fun he => knownEmpty_iff_not_misled he⟩⟩
    rw [run_interactAction (hop ▸ htyping) htarget, hfilling, Option.getD_some]
    simp only [hop, beq_self_eq_true, Bool.true_and, List.contains_iff_mem]
  · exact .inl hhidden

/-- Something done to a field. -/
def onField (op : String) (args : List Value) : Interaction :=
  { element := { id := "f", name := "field" }, op, args, provenance := ⟨"Flow.java", 3, 3⟩ }

def textValue (text : String) : Value := .literal { value := .text text, kind := .string }

def typeMore : Interaction := onField "sendKeys" [textValue "more"]

def clearField : Action := .interact (onField "clear" [])

/-- An empty unit in a project of its own, for Playwright Test. -/
def fieldEnv : Env where
  model := { units := [] }
  profile := playwrightTs
  strategy := .call
  unit := bareUnit "Flow.java" "FlowTest" .testClass

/-- The start of a body in which the field is bound to a variable. -/
def fieldState : State where
  frame :=
    { unit := fieldEnv.unit, mode := .test, page := "page", body := "flow"
      elements := [("f", "field")] }

def behind (s : State) (a : Action) : State := ((bodyStep callAction a).run fieldEnv s).2

theorem run_eq_of_toOption {α : Type} {x : Render α} {env : Env} {s : State} {a : α}
    (h : (x.run env s).1.toOption = some a) : x.run env s = (.ok a, (x.run env s).2) := by
  rcases hrun : x.run env s with ⟨_ | b, _⟩
  · rw [hrun] at h
    cases h
  · rw [hrun] at h
    cases h
    rfl

/-- A walk that passes clearing the field and another action. -/
theorem walk_behind {a : Action} (hfork : forkOf a = none)
    (hrun : ((bodyStep callAction a).run fieldEnv (behind fieldState clearField)).1.toOption =
      some ()) :
    Walk fieldEnv callAction ⟨fieldState, [clearField, a, .interact typeMore]⟩ [.pass, .pass]
      [⟨clearField, some "field"⟩, ⟨a, targetText fieldEnv (behind fieldState clearField) a⟩]
      ⟨behind (behind fieldState clearField) a, [.interact typeMore]⟩ := by
  have hclear : (bodyStep callAction clearField).run fieldEnv fieldState =
      (.ok (), behind fieldState clearField) := run_eq_of_toOption (by decide +kernel)
  have hpassed : Passed fieldEnv callAction fieldState clearField [⟨clearField, some "field"⟩] := by
    exact .whole (.inl rfl)
  exact (Walk.start.pass hclear hpassed).pass (run_eq_of_toOption hrun) (.whole (.inl hfork))

def shortPause : Action := .pause (textValue "5") ⟨"Flow.java", 4, 4⟩

theorem filled_fields_known_empty_iff_shortPause :
    ∃ es t t₁, Walk fieldEnv callAction ⟨fieldState, [clearField, shortPause, .interact typeMore]⟩
        [.pass, .pass] es ⟨t, [.interact typeMore]⟩ ∧
      "field" ∈ t.frame.cleared ∧
      (interactAction typeMore).run fieldEnv t =
        (interactWith typeMore "field" "await $element.fill($arg0);").run fieldEnv t₁ ∧
      ((∀ es, Walk fieldEnv callAction ⟨fieldState, [clearField, shortPause, .interact typeMore]⟩
          [.pass, .pass] es ⟨t, [.interact typeMore]⟩ → KnownEmpty "field" es) ↔
        ¬Misled fieldEnv callAction
          ⟨fieldState, [clearField, shortPause, .interact typeMore]⟩ "field"
          [.pass, .pass] ⟨t, [.interact typeMore]⟩) := by
  have hrun : (bodyLines callAction [clearField, shortPause, .interact typeMore]).run fieldEnv
      fieldState = (.ok (), _) := run_eq_of_toOption (by decide +kernel)
  have hplace : restAt [clearField, shortPause, .interact typeMore] [.pass, .pass] =
      some [.interact typeMore] := rfl
  rcases filled_fields_known_empty_iff rfl rfl hrun hplace rfl with hhidden | ⟨es, t, hwalk, h⟩
  · obtain ⟨_, side, _, -, -, -, -, hw, -, -⟩ := hhidden
    have hmem : Stride.enter side ∈ [Stride.pass, .pass] := by simp [hw]
    simp at hmem
  · cases hwalk.place_eq (walk_behind (a := shortPause) rfl (by decide +kernel))
    have htarget : (elementText typeMore.element).run fieldEnv
        (behind (behind fieldState clearField) shortPause) = (.ok "field", _) :=
      run_eq_of_toOption (by decide +kernel)
    have hcleared : "field" ∈ (behind (behind fieldState clearField) shortPause).frame.cleared := by
      decide +kernel
    obtain ⟨hwritten, hknown⟩ := h "field" _ htarget
    exact ⟨es, _, _, hwalk, hcleared, hwritten, hknown hcleared⟩

/-- A body fills a field not known to be empty, although it starts with none taken for empty. -/
def FillsUnknown (env : Env) (splice : Splicing) (s : State) (body : List Action) : Prop :=
  ∃ s' w es t i rest e t₁ filling,
    s.frame.cleared = [] ∧ (bodyLines splice body).run env s = (.ok (), s') ∧ i.op = "sendKeys" ∧
      Walk env splice ⟨s, body⟩ w es ⟨t, .interact i :: rest⟩ ∧
      Table.get? "fill" env.profile.interactions = some filling ∧
      (interactAction i).run env t = (interactWith i e filling).run env t₁ ∧ ¬KnownEmpty e es

/-- Typing into the field where it is taken for empty, though not by a run. -/
theorem fillsUnknown_of_walk {body : List Action} {w : List Stride} {es : List Event} {t : State}
    (hrun : ((bodyLines callAction body).run fieldEnv fieldState).1.toOption = some ())
    (hwalk : Walk fieldEnv callAction ⟨fieldState, body⟩ w es ⟨t, [.interact typeMore]⟩)
    (htarget : ((elementText typeMore.element).run fieldEnv t).1.toOption = some "field")
    (hcleared : t.frame.cleared.contains "field" = true) (hunknown : ¬KnownEmpty "field" es) :
    FillsUnknown fieldEnv callAction fieldState body := by
  have htemplate : Table.get? typeMore.op fieldEnv.profile.interactions =
      some "await $element.pressSequentially($arg0);" := rfl
  have hwritten := run_interactAction htemplate (run_eq_of_toOption htarget)
  rw [hcleared] at hwritten
  exact ⟨_, w, es, t, typeMore, [], "field", _, _, rfl, run_eq_of_toOption hrun, rfl, hwalk, rfl,
    hwritten, hunknown⟩

def clearedOnOtherSide : Action :=
  .branch (.literal { value := .flag true, kind := .boolean }) [clearField] [.interact typeMore]
    ⟨"Flow.java", 2, 6⟩

/-- Another page is opened, in a way that has no target form. -/
def lostNavigation : Action := .navigate (.verbatim "Helper.url()") ⟨"Flow.java", 4, 4⟩

/-- **Typing can be written as filling into a field that is not known to be empty**: on the second
side of a branch that clears it on the first, and behind an action that has become a comment. -/
theorem fills_fields_not_known_empty :
    FillsUnknown fieldEnv callAction fieldState [clearedOnOtherSide] ∧
      FillsUnknown fieldEnv callAction fieldState [clearField, lostNavigation,
        .interact typeMore] := by
  constructor
  · have hfork : ∃ f, forkOf clearedOnOtherSide = some f ∧ f.second = [.interact typeMore] ∧
        ((f.enter callAction .second).run fieldEnv fieldState).1.toOption = some () ∧
        (let t := ((f.enter callAction .second).run fieldEnv fieldState).2
         ((elementText typeMore.element).run fieldEnv t).1.toOption = some "field" ∧
          t.frame.cleared.contains "field" = true) :=
      ⟨_, rfl, rfl, by decide +kernel, by decide +kernel, by decide +kernel⟩
    obtain ⟨f, hfork, hsecond, henter, htarget, hcleared⟩ := hfork
    have hwalk : Walk fieldEnv callAction ⟨fieldState, [clearedOnOtherSide]⟩ [.enter .second] []
        ⟨_, f.second⟩ := Walk.start.enter hfork (run_eq_of_toOption henter)
    rw [hsecond] at hwalk
    exact fillsUnknown_of_walk (by decide +kernel) hwalk htarget hcleared not_knownEmpty_nil
  · have hspoils : ∀ target, Event.Spoils "field" ⟨lostNavigation, target⟩ := by
      refine fun target => ⟨?_, id⟩
      rintro ⟨-, i, hi, -⟩
      cases hi
    have hunknown : ∀ target, ¬KnownEmpty "field"
        ([⟨clearField, some "field"⟩] ++ [⟨lostNavigation, target⟩]) :=
      fun target => not_knownEmpty_of_spoils (hspoils target)
    exact fillsUnknown_of_walk (by decide +kernel)
      (walk_behind (a := lostNavigation) rfl (by decide +kernel)) (by decide +kernel)
      (by decide +kernel) (hunknown _)

end TestMigration.Rendering
