import TestMigration.Proofs.Rendering.Untouched
/-!
# Walks through a body

Rendering goes through a body once, in the order of the text, and what it has learnt on the first
side of a branch is still known on the second. A run takes one of the two sides. To compare what
rendering takes for granted at a place with what is so on every run that gets there, both are
followed side by side.

A *walk* (`Walk`) does this. It leads from the start of a body to a place in it: an action is passed
as a whole, or one side of a fork is entered. These strides determine the state of rendering at the
place, but not what a run has met before, as a fork passed as a whole is run on one side only; so a
walk also carries the actions that one of the runs meets (`Passed`, `Through`).

What stands inside of a branch whose condition has no target form is not written. Every other place
is come to, if rendering the body gives a result (`exists_walk_or_hidden`).
-/

namespace TestMigration.Rendering

open TestMigration.Action Text Profile

variable {s s' : State} {w : List Stride} {es : List Event}

/-! ### Forks -/

inductive Side where
  | first
  | second
  deriving DecidableEq, Repr

/-- An action with two sides: how they are written, and what is on them. -/
structure Fork where
  opening : Render (Phrases → String)
  turn : Phrases → String
  /-- Whether the second side is written even if it is empty. -/
  both : Bool
  first : List Action
  second : List Action

/-- An action as a fork. A probe that only asks whether an element can be seen has no sides. -/
def forkOf : Action → Option Fork
  | .branch condition thenBody elseBody _ => some {
      opening := do
        let test ← valueText condition
        return fun p => fill p.ifOpen [("condition", test)]
      turn := (·.elseOpen), both := false, first := thenBody, second := elseBody }
  | .probe body fallback _ =>
    match presenceCheck body fallback with
    | some _ => none
    | none => some {
        opening := return (·.tryOpen)
        turn := (·.catchOpen), both := true, first := body, second := fallback }
  | _ => none

namespace Fork

def side (f : Fork) : Side → List Action
  | .first => f.first
  | .second => f.second

def lines (splice : Splicing) (f : Fork) : Render Unit :=
  f.opening >>= fun opening => forkLines splice opening f.turn f.both f.first f.second

def enter (splice : Splicing) (f : Fork) : Side → Render Unit
  | .first => do
    let opening ← f.opening
    line (opening (← phrases))
    modifyCode Code.deeper
  | .second => do
    let opening ← f.opening
    line (opening (← phrases))
    block (bodyLines splice f.first)
    line (f.turn (← phrases))
    modifyCode Code.deeper

end Fork

section Forks

variable {env : Env} {splice : Splicing} {a : Action} {f : Fork}

theorem actionLines_fork (h : forkOf a = some f) : actionLines splice a = f.lines splice := by
  cases a with
  | branch _ _ _ p =>
    cases h
    rw [actionLines_branch, Fork.lines]
    simp
  | probe body fallback p =>
    cases hpresence : presenceCheck body fallback with
    | some =>
      rw [forkOf, hpresence] at h
      cases h
    | none =>
      rw [forkOf, hpresence] at h
      cases h
      rw [actionLines_probe p hpresence, Fork.lines, pure_bind]
  | _ => cases h

/-- A written fork is entered on its first side, and on a second one that is not empty; and what
stands there is rendered. -/
theorem Fork.exists_enter (hrun : (f.lines splice).run env s = (.ok (), s'))
    {side : Side} (hside : side = .first ∨ f.second ≠ []) :
    ∃ t t', (f.enter splice side).run env s = (.ok (), t) ∧
      (bodyLines splice (f.side side)).run env t = (.ok (), t') := by
  obtain ⟨_, _, hopening, hrun⟩ := exists_of_run_bind hrun
  obtain ⟨_, _, hline, hblock, hrest⟩ := exists_of_run_forkLines hrun
  cases side with
  | first =>
    obtain ⟨t₁, hbody, -⟩ := exists_of_run_block hblock
    refine ⟨_, t₁, ?_, hbody⟩
    rw [Fork.enter, run_bind_ok hopening, run_bind_ok run_phrases, run_bind_ok hline]
    rfl
  | second =>
    have hsecond : f.second ≠ [] := by simpa using hside
    obtain ⟨-, hempty, -⟩ | ⟨-, _, _, hturn, hblock', -⟩ := hrest
    · exact absurd hempty hsecond
    · obtain ⟨t₂, hbody, -⟩ := exists_of_run_block hblock'
      refine ⟨_, t₂, ?_, hbody⟩
      rw [Fork.enter, run_bind_ok hopening, run_bind_ok run_phrases, run_bind_ok hline,
        run_bind_ok hblock, run_bind_ok run_phrases, run_bind_ok hturn]
      rfl

end Forks

/-! ### Walks -/

/-- An action that a run meets, with the text of its element, if that has a target form. -/
structure Event where
  action : Action
  target : Option String

/-- The element that an action is done to, as it is written. -/
def targetText (env : Env) (s : State) : Action → Option String
  | .interact i =>
    match (elementText i.element).run env s with
    | (.ok text, _) => some text
    | _ => none
  | _ => none

/-- An action has no target form, so it becomes a comment. -/
def Lapses (env : Env) (splice : Splicing) (s : State) (a : Action) : Prop :=
  ∃ text s', (actionLines splice a).run env s = (.error (.untranslatable text), s')

section Walks

variable (env : Env) (splice : Splicing)

mutual

/-- What a run meets when it passes an action as a whole: a fork, and then one of its sides; but
nothing is known of the sides of a fork that becomes a comment. -/
inductive Passed : State → Action → List Event → Prop
  | whole {s : State} {a : Action} (h : forkOf a = none ∨ Lapses env splice s a) :
    Passed s a [⟨a, targetText env s a⟩]
  | fork {s t : State} {a : Action} {f : Fork} {side : Side} {es : List Event}
    (hfork : forkOf a = some f) (henter : (f.enter splice side).run env s = (.ok (), t))
    (h : Through t (f.side side) es) : Passed s a (⟨a, none⟩ :: es)

/-- What a run meets when it goes through a body. -/
inductive Through : State → List Action → List Event → Prop
  | nil {s : State} : Through s [] []
  | cons {s s' : State} {a : Action} {rest : List Action} {es es' : List Event}
    (hrun : (bodyStep splice a).run env s = (.ok (), s')) (h : Passed s a es)
    (hrest : Through s' rest es') : Through s (a :: rest) (es ++ es')

end

/-- To pass an action, or to enter one of its sides. -/
inductive Stride where
  | pass
  | enter (side : Side)
  deriving DecidableEq, Repr

/-- How far rendering has come: its state, and the rest of the body. -/
structure Place where
  state : State
  rest : List Action

/-- A walk, with what one of the runs meets on it. -/
inductive Walk (start : Place) : List Stride → List Event → Place → Prop
  | start : Walk start [] [] start
  | pass {w : List Stride} {es es' : List Event} {s s' : State} {a : Action} {rest : List Action}
    (h : Walk start w es ⟨s, a :: rest⟩) (hrun : (bodyStep splice a).run env s = (.ok (), s'))
    (hpassed : Passed env splice s a es') : Walk start (w ++ [.pass]) (es ++ es') ⟨s', rest⟩
  | enter {w : List Stride} {es : List Event} {s t : State} {a : Action} {rest : List Action}
    {f : Fork} {side : Side} (h : Walk start w es ⟨s, a :: rest⟩) (hfork : forkOf a = some f)
    (henter : (f.enter splice side).run env s = (.ok (), t)) :
    Walk start (w ++ [.enter side]) es ⟨t, f.side side⟩

/-- The rest of a body where a walk leads. -/
def restAt : List Action → List Stride → Option (List Action)
  | body, [] => some body
  | _ :: rest, .pass :: w => restAt rest w
  | a :: _, .enter side :: w =>
    match forkOf a with
    | some f => restAt (f.side side) w
    | none => none
  | [], _ :: _ => none

/-- Some strides enter a fork that becomes a comment. -/
def Hidden (start : Place) (w : List Stride) : Prop :=
  ∃ w₁ side w₂ es s a rest, w = w₁ ++ .enter side :: w₂ ∧
    Walk env splice start w₁ es ⟨s, a :: rest⟩ ∧ Lapses env splice s a

end Walks

section Existence

variable {env : Env} {splice : Splicing} {c c' c'' : Place}

theorem run_actionLines_or_lapses {a : Action} (ha : a.isWait = false)
    (hrun : (bodyStep splice a).run env s = (.ok (), s')) :
    (∃ s₁, (actionLines splice a).run env s = (.ok (), s₁) ∧
      s'.frame.cleared = if keepsCleared a then s₁.frame.cleared else []) ∨
      Lapses env splice s a := by
  rw [bodyStep_of_not_wait ha] at hrun
  rcases run_guarded_cases hrun with hok | ⟨text, s₁, hstop, -⟩
  · obtain ⟨_, s₁, hlines, hrest⟩ := exists_of_run_bind hok
    refine .inl ⟨s₁, hlines, ?_⟩
    cases hkeeps : keepsCleared a with
    | true =>
      simp only [hkeeps] at hrest
      cases hrest
      rfl
    | false =>
      simp only [hkeeps] at hrest
      cases hrest
      rfl
  · refine .inr ⟨text, s₁, ?_⟩
    rcases hlines : (actionLines splice a).run env s with ⟨_ | _, _⟩
    · rw [run_bind_error hlines] at hstop
      exact hstop
    · rw [run_bind_ok hlines] at hstop
      split at hstop <;> cases hstop

theorem isWait_of_forkOf {a : Action} {f : Fork} (h : forkOf a = some f) : a.isWait = false := by
  cases a <;> first | rfl | cases h

/-- A passed fork can be entered on the sides that are not empty, or it lapses. -/
theorem exists_enter_or_lapses {a : Action} {f : Fork} (hfork : forkOf a = some f) {side : Side}
    (hside : side = .first ∨ f.second ≠ [])
    (hrun : (bodyStep splice a).run env s = (.ok (), s')) :
    (∃ t t', (f.enter splice side).run env s = (.ok (), t) ∧
      (bodyLines splice (f.side side)).run env t = (.ok (), t')) ∨ Lapses env splice s a := by
  rcases run_actionLines_or_lapses (isWait_of_forkOf hfork) hrun with ⟨_, hlines, -⟩ | hlapses
  · rw [actionLines_fork hfork] at hlines
    exact .inl (Fork.exists_enter hlines hside)
  · exact .inr hlapses

/-- A passed fork can be run on its first side, unless it lapses. -/
theorem exists_passed_fork {a : Action} {f : Fork} (hfork : forkOf a = some f)
    (hfirst : ∀ {t t' : State}, (bodyLines splice f.first).run env t = (.ok (), t') →
      ∃ es, Through env splice t f.first es)
    (hrun : (bodyStep splice a).run env s = (.ok (), s')) :
    ∃ es, Passed env splice s a es := by
  rcases exists_enter_or_lapses hfork (.inl rfl) hrun with ⟨t, t', henter, hbody⟩ | hlapses
  · obtain ⟨es, hthrough⟩ := hfirst hbody
    exact ⟨_, .fork hfork henter hthrough⟩
  · exact ⟨_, .whole (.inr hlapses)⟩

mutual

theorem exists_passed (a : Action) {s s' : State}
    (hrun : (bodyStep splice a).run env s = (.ok (), s')) : ∃ es, Passed env splice s a es := by
  revert hrun
  cases a with
  | branch _ thenBody _ p => exact exists_passed_fork rfl (exists_through thenBody)
  | probe body fallback p =>
    intro hrun
    cases hpresence : presenceCheck body fallback with
    | some =>
      have hfork : forkOf (.probe body fallback p) = none := by rw [forkOf, hpresence]
      exact ⟨_, .whole (.inl hfork)⟩
    | none =>
      have hfork : ∃ f, forkOf (.probe body fallback p) = some f ∧ f.first = body := by
        rw [forkOf, hpresence]
        exact ⟨_, rfl, rfl⟩
      obtain ⟨f, hfork, hfirst⟩ := hfork
      refine exists_passed_fork hfork ?_ hrun
      rw [hfirst]
      exact exists_through body
  | _ => exact fun _ => ⟨_, .whole (.inl rfl)⟩

theorem exists_through (body : List Action) {s s' : State}
    (hrun : (bodyLines splice body).run env s = (.ok (), s')) :
    ∃ es, Through env splice s body es := by
  match body with
  | [] => exact ⟨[], .nil⟩
  | a :: rest =>
    rw [bodyLines_cons] at hrun
    obtain ⟨_, _, hstep, hrest⟩ := exists_of_run_bind hrun
    obtain ⟨es, hpassed⟩ := exists_passed a hstep
    obtain ⟨es', hthrough⟩ := exists_through rest hrest
    exact ⟨es ++ es', .cons hstep hpassed hthrough⟩

end

/-- **The strides determine the place**, and its state. -/
theorem Walk.place_eq {es' : List Event} (h : Walk env splice c w es c')
    (h' : Walk env splice c w es' c'') : c' = c'' := by
  -- The strides end in one that is known, but not as a constructor, so the other walk is taken
  -- apart behind an equation for them.
  induction h generalizing es' c'' with
  | start =>
    generalize hw : [] = w at h'
    cases h' with
    | start => rfl
    | pass => exact absurd hw (by simp)
    | enter => exact absurd hw (by simp)
  | @pass w₁ _ _ _ _ _ _ _ hrun _ ih =>
    generalize hw : w₁ ++ [.pass] = w at h'
    cases h' with
    | start => exact absurd hw (by simp)
    | pass h' hrun' =>
      obtain ⟨rfl, -⟩ := List.append_inj' hw rfl
      cases ih h'
      rw [hrun] at hrun'
      cases hrun'
      rfl
    | enter =>
      obtain ⟨-, hlast⟩ := List.append_inj' hw rfl
      cases hlast
  | @enter w₁ _ _ _ _ _ _ side _ hfork henter ih =>
    generalize hw : w₁ ++ [.enter side] = w at h'
    cases h' with
    | start => exact absurd hw (by simp)
    | pass =>
      obtain ⟨-, hlast⟩ := List.append_inj' hw rfl
      cases hlast
    | enter h' hfork' henter' =>
      obtain ⟨rfl, hlast⟩ := List.append_inj' hw rfl
      cases hlast
      cases ih h'
      rw [hfork] at hfork'
      cases hfork'
      rw [henter] at henter'
      cases henter'
      rfl

theorem Walk.trans {w' : List Stride} {es' : List Event} (h : Walk env splice c w es c')
    (h' : Walk env splice c' w' es' c'') : Walk env splice c (w ++ w') (es ++ es') c'' := by
  induction h' with
  | start => simpa using h
  | pass _ hrun hpassed ih =>
    have := ih.pass hrun hpassed
    rwa [List.append_assoc, List.append_assoc] at this
  | enter _ hfork henter ih =>
    have := ih.enter hfork henter
    rwa [List.append_assoc] at this

theorem Hidden.after {w' : List Stride} (h : Walk env splice c w es c')
    (h' : Hidden env splice c' w') : Hidden env splice c (w ++ w') := by
  obtain ⟨w₁, side, w₂, es', s, a, rest, rfl, hwalk, hlapses⟩ := h'
  exact ⟨w ++ w₁, side, w₂, es ++ es', s, a, rest, (List.append_assoc ..).symm, h.trans hwalk,
    hlapses⟩

theorem restAt_nil_ne (w : List Stride) {a : Action} {rest : List Action} :
    restAt [] w ≠ some (a :: rest) := by
  cases w with
  | nil => nofun
  | cons stride w => cases stride <;> nofun

/-- **Rendering comes to every place of a body**, but for those in a branch that becomes a
comment. -/
theorem exists_walk_or_hidden {body : List Action}
    (hrun : (bodyLines splice body).run env s = (.ok (), s')) {a : Action}
    {rest : List Action} (hrest : restAt body w = some (a :: rest)) :
    (∃ es t, Walk env splice ⟨s, body⟩ w es ⟨t, a :: rest⟩) ∨ Hidden env splice ⟨s, body⟩ w := by
  -- A walk grows at its end, the body is rendered from its start: each stride is taken as a walk of
  -- its own, and the rest is put behind it.
  induction w generalizing body s s' with
  | nil =>
    cases hrest
    exact .inl ⟨[], s, .start⟩
  | cons stride w ih =>
    cases body with
    | nil => exact absurd hrest (restAt_nil_ne _)
    | cons b others =>
      rw [bodyLines_cons] at hrun
      obtain ⟨_, s₁, hstep, hothers⟩ := exists_of_run_bind hrun
      cases stride with
      | pass =>
        obtain ⟨es, hpassed⟩ := exists_passed b hstep
        have hfirst : Walk env splice ⟨s, b :: others⟩ [.pass] es ⟨s₁, others⟩ :=
          Walk.start.pass hstep hpassed
        rcases ih hothers hrest with ⟨es', t, hwalk⟩ | hhidden
        · exact .inl ⟨_, t, hfirst.trans hwalk⟩
        · exact .inr (hhidden.after hfirst)
      | enter side =>
        cases hfork : forkOf b with
        | none =>
          rw [restAt, hfork] at hrest
          cases hrest
        | some f =>
          rw [restAt, hfork] at hrest
          have hside : side = .first ∨ f.second ≠ [] := by
            cases side with
            | first => exact .inl rfl
            | second =>
              -- An empty second side may be left out, but then there is no place on it.
              refine .inr fun hempty => ?_
              change restAt f.second w = _ at hrest
              rw [hempty] at hrest
              exact restAt_nil_ne w hrest
          rcases exists_enter_or_lapses hfork hside hstep with ⟨t, t', henter, hbody⟩ | hlapses
          · have hfirst : Walk env splice ⟨s, b :: others⟩ [.enter side] [] ⟨t, f.side side⟩ :=
              Walk.start.enter hfork henter
            rcases ih hbody hrest with ⟨es', t', hwalk⟩ | hhidden
            · exact .inl ⟨_, t', hfirst.trans hwalk⟩
            · exact .inr (hhidden.after hfirst)
          · exact .inr ⟨[], side, w, [], s, b, others, rfl, .start, hlapses⟩

end Existence

end TestMigration.Rendering
