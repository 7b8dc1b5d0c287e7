import TestMigration.Proofs.Rendering.Fragments
/-!
# The fragments of a body

Which fragments a body leaves can be told without rendering it: each action written as a statement
of its own leaves one, a wait two, unless a value in it has no target form; then it becomes a
comment and leaves none (`marksIn`). The scope is followed along, because a lookup that is given up
leaves an element without an expression.

Under the inlining strategy the fragments of a spliced method appear in the body that calls it. So
what a call statement leaves is a parameter of the recursion over the body, and what splicing has to
satisfy is an assumption (`Splices`). The main statement, `leaves_bodyLines`, covers both
strategies.
-/

namespace TestMigration.Rendering

open TestMigration.Action Text Profile

/-! ### What a body leaves -/

def Scope.lacksAny (env : Env) (σ : Scope) (vs : List Value) : Bool :=
  (partsOf vs).any (σ.partLacks env (fieldLacks env σ (σ.depth env)))

/-- Whether an action that leaves fragments becomes a comment. -/
def lapsed (env : Env) (σ : Scope) : Action → Bool
  | .navigate url _ => σ.lacks env url
  | .interact i => σ.lacksElement env i.element || σ.lacksAny env i.args
  | .wait w => σ.lacksAny env w.args || w.target.any (σ.lacksElement env)
  | .assert a =>
    σ.lacks env a.actual || (a.expected.any (σ.lacks env) || a.message.any (σ.lacks env))
  | .script s => σ.lacksAny env s.args
  | .pause millis _ => σ.lacks env millis
  | _ => false

abbrev MarkList := List (TraceKind × Provenance)

/-- What an action leaves if it is written. -/
def ownMarks (env : Env) : Action → MarkList
  | .navigate _ p => [(.action, p)]
  | .interact i => [(.action, i.provenance)]
  | .wait w => [(.wait, w.provenance), (.action, w.provenance)]
  | .assert a => [(.action, a.provenance)]
  | .script s => [(.action, s.provenance)]
  | .pause _ p => [(.action, p)]
  | .command name _ p =>
    if ((Table.get? name env.profile.commands).getD "").isEmpty then [] else [(.action, p)]
  | _ => []

mutual

/-- What an action leaves in a scope, and the scope behind it; `splice` lists what a spliced call
leaves. -/
def marksInAction (env : Env) (splice : Scope → Delegation → MarkList)
    (σ : Scope) : Action → MarkList × Scope
  | .locate l =>
    ([], if l.parent.any (σ.lacksElement env) || σ.lacksLocator env l.locator then σ
      else σ.bind l.ref.id)
  | .pick k =>
    ([], if σ.lacksElement env k.source || σ.lacks env k.index then σ else σ.bind k.ref.id)
  | .delegate d => (if env.strategy = .inline then splice σ d else [], σ)
  | .branch condition thenBody elseBody _ =>
    if σ.lacks env condition then ([], σ)
    else
      let first := marksIn env splice σ thenBody
      let second := marksIn env splice first.2 elseBody
      (first.1 ++ second.1, second.2)
  | .probe body fallback p =>
    match presenceCheck body fallback with
    | some presence => (if σ.lacks env presence then [] else [(.action, p)], σ)
    | none =>
      let first := marksIn env splice σ body
      let second := marksIn env splice first.2 fallback
      (first.1 ++ second.1, second.2)
  | a => (if lapsed env σ a then [] else ownMarks env a, σ)

/-- What a body leaves in a scope, and the scope behind it. -/
def marksIn (env : Env) (splice : Scope → Delegation → MarkList) (σ : Scope) :
    List Action → MarkList × Scope
  | [] => ([], σ)
  | a :: rest =>
    let first := marksInAction env splice σ a
    let second := marksIn env splice first.2 rest
    (first.1 ++ second.1, second.2)

end

/-! ### Judging what a step leaves -/

def stamp (body : String) (m : TraceKind × Provenance) : Mark := ⟨m.1, body, m.2⟩

/-- The frame stays but for declared variables and for fields known to be empty. -/
def Light (s : State) (_ : Option Stop) (s' : State) : Prop :=
  ∃ declared cleared, s'.frame = { s.frame with declared, cleared }

variable {s s' : State} {e : Option Stop}

instance : Composable Light where
  refl s := ⟨s.frame.declared, s.frame.cleared, rfl⟩
  trans h h' := by
    obtain ⟨_, _, hframe⟩ := h
    obtain ⟨declared, cleared, hframe'⟩ := h'
    exact ⟨declared, cleared, by rw [hframe', hframe]⟩

instance : Tolerant Light := ⟨fun h => h.toQuiet.calm.mild.frame⟩

instance : CodeFree Light := ⟨fun _ _ h => h⟩

instance (priority := low) {α : Type} {x : Render α} [h : Keeps Mild x] : Keeps Light x :=
  h.mono Mild.frame

instance (w : Wait) : Keeps Light (waitAction w) :=
  (keeps_waitAction w).mono fun h => ⟨_, _, h.frame⟩

instance light_inFrame {α : Type} (f : Frame) (x : Render α) : Keeps Light (inFrame f x) := by
  refine ⟨fun env s => ?_⟩
  rw [run_inFrame]
  exact ⟨_, _, rfl⟩

theorem Light.fits (h : Light s e s') {σ : Scope} (hfits : σ.Fits s.frame) : σ.Fits s'.frame := by
  obtain ⟨_, _, hframe⟩ := h
  rw [hframe]
  exact ⟨hfits.unit, hfits.mode, hfits.bound⟩

theorem Light.body (h : Light s e s') : s'.frame.body = s.frame.body := by
  obtain ⟨_, _, hframe⟩ := h
  rw [hframe]

/-- What a step leaves in a scope if it gives a result. If it ends for lack of a target form it
leaves nothing, and nothing was expected. -/
structure Marks (env : Env) (σ : Scope) (out : MarkList) {α : Type}
    (x : Render α) : Prop where
  ok {s s' : State} {a : α} : σ.Fits s.frame → x.run env s = (.ok a, s') →
    Added (out.map (stamp s.frame.body)) s s'
  untranslatable {s s' : State} {text : String} : σ.Fits s.frame →
    x.run env s = (.error (.untranslatable text), s') → out = [] ∧ Added [] s s'

section Marks

variable {α β : Type} {env : Env} {σ : Scope} {out : MarkList}
variable {x : Render α} {f : α → Render β} {lacks : Bool}

theorem Marks.of_unmarked (x : Render α) [h : Keeps Unmarked x] : Marks env σ [] x where
  ok _ hrun := (h.of_run hrun).added
  untranslatable _ hrun := ⟨rfl, (h.of_run hrun).added⟩

theorem Marks.of_total (h : ∀ s, ∃ a s', x.run env s = (.ok a, s') ∧
    Added (out.map (stamp s.frame.body)) s s') : Marks env σ out x where
  ok {s s' a} _ hrun := by
    obtain ⟨a', s₁, hrun', hadded⟩ := h s
    cases hrun'.symm.trans hrun
    exact hadded
  untranslatable {s s' text} _ hrun := by
    obtain ⟨a', s₁, hrun', -⟩ := h s
    cases hrun'.symm.trans hrun

/-- A step that leaves nothing, before one that does: if the first lacks a target form, there is
nothing. The second need only be judged for results of the first. -/
theorem Marks.judged_of_result [hlight : Keeps Light x]
    [hunmarked : Keeps Unmarked x] (hx : Judges env σ lacks x)
    (hf : ∀ {a s s'}, x.run env s = (.ok a, s') → Marks env σ out (f a)) :
    Marks env σ (if lacks then [] else out) (x >>= f) where
  ok {s s'' b} hfits hrun := by
    obtain ⟨a, s', hxrun, hfrun⟩ := exists_of_run_bind hrun
    have hfirst := hunmarked.of_run hxrun
    have hrest := (hf hxrun).ok ((hlight.of_run hxrun).fits hfits) hfrun
    rw [hx.ok hfits hxrun]
    rw [hfirst.body] at hrest
    exact hfirst.added.trans hrest
  untranslatable {s s'' text} hfits hrun := by
    rcases hxrun : x.run env s with ⟨_ | a, s'⟩
    · rw [run_bind_error hxrun] at hrun
      cases hrun
      rw [hx.untranslatable hfits hxrun]
      exact ⟨rfl, (hunmarked.of_run hxrun).added⟩
    · rw [run_bind_ok hxrun] at hrun
      have hfirst := hunmarked.of_run hxrun
      obtain ⟨hout, hadded⟩ := (hf hxrun).untranslatable ((hlight.of_run hxrun).fits hfits) hrun
      rw [hx.ok hfits hxrun]
      exact ⟨hout, hfirst.added.trans hadded⟩

theorem Marks.judged [Keeps Light x] [Keeps Unmarked x] (hx : Judges env σ lacks x)
    (hf : ∀ a, Marks env σ out (f a)) :
    Marks env σ (if lacks then [] else out) (x >>= f) :=
  Marks.judged_of_result hx fun {a _ _} _ => hf a

theorem Marks.of_result [Keeps Light x] [Keeps Unmarked x]
    [Keeps Translated x] (hf : ∀ {a s s'}, x.run env s = (.ok a, s') → Marks env σ out (f a)) :
    Marks env σ out (x >>= f) :=
  Marks.judged_of_result (Judges.of_translated x) hf

theorem Marks.after [Keeps Light x] [Keeps Unmarked x]
    [Keeps Translated x] (hf : ∀ a, Marks env σ out (f a)) : Marks env σ out (x >>= f) :=
  Marks.of_result fun {a _ _} _ => hf a

theorem Marks.withProfile {k : Profile → Render α} (h : Marks env σ out (k env.profile)) :
    Marks env σ out (profile >>= k) :=
  ⟨fun hfits hrun => h.ok hfits hrun, fun hfits hrun => h.untranslatable hfits hrun⟩

theorem marks_emitLine (p : Provenance) (text : String) :
    Marks env σ [(.action, p)] (emitLine p text) :=
  Marks.of_total fun s =>
    let ⟨s', hrun, _, hadded⟩ := added_emitLine p text s
    ⟨(), s', hrun, hadded⟩

theorem marks_refuseAt (p : Provenance) (fault : Fault) :
    Marks env σ out (refuseAt p fault : Render α) :=
  ⟨fun _ hrun => (by cases hrun), fun _ hrun => (by cases hrun)⟩

theorem judges_arguments (vs : List Value) :
    Judges env σ (σ.lacksAny env vs) (valueList fieldText vs) :=
  (judges_values inferInstance judges_fieldText vs).1

theorem judges_scriptArguments (vs : List Value) :
    Judges env σ (σ.lacksAny env vs) (scriptArgs fieldText vs) :=
  (judges_values inferInstance judges_fieldText vs).2

theorem if_or_nil (b c : Bool) (out : MarkList) :
    (if b || c then [] else out) = if b then [] else if c then [] else out := by
  cases b <;> simp

end Marks

/-! ### Single actions -/

section Actions

variable {env : Env} {σ : Scope}
variable {a : Action}

instance (f : Frame → List String) :
    Keeps Unmarked (modifyFrame fun frame => { frame with cleared := f frame }) :=
  unmarked_modifyFrame fun _ => rfl

theorem marks_interactAction (i : Interaction) :
    Marks env σ (if lapsed env σ (.interact i) then [] else [(.action, i.provenance)])
      (interactAction i) := by
  refine .after fun p => ?_
  cases Table.get? i.op p.interactions with
  | none => exact marks_refuseAt _ _
  | some =>
    rw [lapsed, if_or_nil]
    refine .judged (judges_elementText i.element) fun target => Marks.after fun f => ?_
    exact .after fun _ => Marks.judged (judges_arguments i.args) fun args =>
      Marks.after fun f => marks_emitLine _ _

theorem marks_waitAction (w : Wait) : Marks env σ
      (if lapsed env σ (.wait w) then [] else [(.wait, w.provenance), (.action, w.provenance)])
      (waitAction w) := by
  have hwrite : ∀ text, Marks env σ [(.wait, w.provenance), (.action, w.provenance)] (do
      line text
      trace .wait w.provenance text
      trace .action w.provenance text) := fun text =>
    Marks.of_total fun s =>
      let ⟨s', hrun, _, hadded⟩ := added_wait w.provenance text s
      ⟨(), s', hrun, hadded⟩
  refine .after fun p => ?_
  cases Table.get? w.condition p.waits with
  | none => exact marks_refuseAt _ _
  | some =>
    rw [lapsed, if_or_nil]
    refine .judged (judges_arguments w.args) fun args => Marks.after fun millis => ?_
    cases w.target with
    | none =>
      exact .after fun target => Marks.after fun f => hwrite _
    | some ref =>
      exact .judged (judges_elementText ref) fun e => Marks.after fun target =>
        Marks.after fun f => hwrite _

theorem marks_message (template : String) {message : Option Value} {write : String → Render Unit}
    {out : MarkList} (hwrite : ∀ text, Marks env σ out (write text)) :
    Marks env σ (if message.any (σ.lacks env) then [] else out)
      (match message with
        | some v => do
          let text ← valueText v
          let part ← pure (fill template [("message", text)])
          write part
        | none => do
          let part ← pure ""
          write part) := by
  cases message with
  | none => exact .after fun part => hwrite part
  | some v => exact .judged (judges_valueText v) fun text => Marks.after fun part => hwrite part

theorem marks_assertAction (a : Assertion) :
    Marks env σ (if lapsed env σ (.assert a) then [] else [(.action, a.provenance)])
      (assertAction a) := by
  refine .after fun p => ?_
  cases Table.get? a.kind p.asserts with
  | none => exact marks_refuseAt _ _
  | some =>
    rw [lapsed, if_or_nil, if_or_nil]
    refine .judged (judges_valueText a.actual) fun actual => ?_
    cases a.expected with
    | none => exact .after fun expected => marks_message _ fun _ => marks_emitLine _ _
    | some v =>
      exact .judged (judges_valueText v) fun text => Marks.after fun expected =>
        marks_message _ fun _ => marks_emitLine _ _

theorem marks_scriptAction [HoldsValues env.profile.phrases] (r : ScriptRun) :
    Marks env σ (if lapsed env σ (.script r) then [] else [(.action, r.provenance)])
      (scriptAction r) := by
  refine .after fun p => Marks.judged (judges_scriptArguments r.args) fun args =>
    Marks.after fun parts => ?_
  split
  · refine .of_total fun s => ?_
    obtain ⟨s', hrun, -, hadded⟩ := @added_emitLine env r.provenance
      (fill p.script.statement parts) s
    exact ⟨(), s', hrun, hadded⟩
  · refine .of_total fun s => ?_
    obtain ⟨s', _, hrun, -, hadded⟩ := @added_bindLine env _ r.bind
      (fill p.script.expression parts) r.declare r.provenance s
    exact ⟨(), s', hrun, hadded⟩

theorem marks_commandAction (name : String) (args : List Value) (p : Provenance) :
    Marks env σ (ownMarks env (.command name args p)) (commandAction name args p) := by
  refine .withProfile ?_
  rw [ownMarks]
  cases Table.get? name env.profile.commands with
  | none => exact marks_refuseAt _ _
  | some template =>
    dsimp only [Option.getD_some]
    by_cases hempty : template.isEmpty = true
    · rw [if_pos hempty, if_pos hempty]
      exact .of_unmarked _
    · rw [if_neg hempty, if_neg hempty]
      split
      · exact .after fun seconds => Marks.after fun millis => Marks.after fun _ =>
          Marks.after fun f => marks_emitLine _ _
      · exact .after fun _ => Marks.after fun f => marks_emitLine _ _

theorem marks_actionLines [HoldsValues env.profile.phrases] (splice : Splicing)
    (ha : isPlainStep a = true ∨ a.isWait = true) (hcall : ∀ d, a ≠ .delegate d) :
    Marks env σ (if lapsed env σ a then [] else ownMarks env a) (actionLines splice a) := by
  match a with
  | .navigate url p =>
    exact .judged (judges_valueText url) fun text => Marks.after fun template =>
      Marks.after fun f => marks_emitLine _ _
  | .interact i => exact marks_interactAction i
  | .wait w => exact marks_waitAction w
  | .assert a => exact marks_assertAction a
  | .script r => exact marks_scriptAction r
  | .pause millis p =>
    exact .judged (judges_valueText millis) fun text => Marks.after fun template =>
      Marks.after fun f => marks_emitLine _ _
  | .command name args p => exact marks_commandAction name args p
  | .bind _ | .ret none _ | .ret (some _) _ | .verbatim .. =>
    unfold actionLines; exact .of_unmarked _
  | .delegate d => exact absurd rfl (hcall d)
  | .locate _ | .pick _ | .branch .. | .probe .. => rcases ha with ha | ha <;> cases ha

theorem light_actionLines (splice : Splicing)
    (ha : isPlainStep a = true ∨ a.isWait = true) (hcall : ∀ d, a ≠ .delegate d) :
    Keeps Light (actionLines splice a) := by
  cases a with
  | delegate d => exact absurd rfl (hcall d)
  | locate | pick | branch | probe => rcases ha with ha | ha <;> cases ha
  | ret value => cases value <;> (unfold actionLines; infer_instance)
  | _ => unfold actionLines; infer_instance

end Actions

/-! ### Bodies -/

/-- The trace has got marks, and the frame is that of the same body. -/
structure Marked (out : MarkList) (s s' : State) : Prop where
  body : s'.frame.body = s.frame.body
  added : Added (out.map (stamp s.frame.body)) s s'

def markLedger : Ledger MarkList where
  join := (· ++ ·)
  Tells := Marked
  Idle := Unmarked
  composable := inferInstance
  trans {out out' s s' s''} h h' := by
    have hadded := h'.added
    rw [h.body] at hadded
    exact ⟨h'.body.trans h.body, by rw [List.map_append]; exact h.added.trans hadded⟩
  around hbefore h hafter := by
    have hadded := hbefore.added.trans (h.added.trans hafter.added)
    rw [hbefore.body, List.append_nil] at hadded
    exact ⟨hafter.body.trans (h.body.trans hbefore.body), hadded⟩
  lays := lays_unmarked
  value _ _ := inferInstance
  objects _ _ := inferInstance
  deeper _ := ⟨rfl, added_lines (List.append_nil _).symm rfl⟩
  shallower _ := ⟨rfl, added_lines (List.append_nil _).symm rfl⟩
  reframe _ _ h := ⟨h, added_lines (List.append_nil _).symm rfl⟩

/-- What a part of a body has left, and that a scope fits behind it. -/
abbrev Leaves (out : MarkList × Scope) (s s' : State) : Prop := markLedger.Part out s s'

section Bodies

variable {env : Env} {σ : Scope}
variable {x : Render Unit} {out : MarkList} {s s' : State}
variable {splice : Splicing} {a : Action}
variable {listed : Scope → Delegation → MarkList}

instance unmarked_count :
    Keeps Unmarked (modifySession fun s => { s with waits := s.waits + 1 }) := by
  have := silent_modifySession (f := fun s => { s with waits := s.waits + 1 }) fun _ => rfl
  infer_instance

instance light_count : Keeps Light (modifySession fun s => { s with waits := s.waits + 1 }) :=
  ⟨fun _ _ => ⟨_, _, rfl⟩⟩

theorem leaves_guarded [hlight : Keeps Light x] (hx : Marks env σ out x)
    (hfits : σ.Fits s.frame) (hrun : (guarded x).run env s = (.ok (), s')) :
    Leaves (out, σ) s s' := by
  have hguarded := (inferInstance : Keeps Light (guarded x)).of_run hrun
  refine ⟨hguarded.fits hfits, hguarded.body, ?_⟩
  rcases run_guarded_cases hrun with hok | ⟨text, _, hstop, hcomment⟩
  · exact hx.ok hfits hok
  · obtain ⟨rfl, hadded⟩ := hx.untranslatable hfits hstop
    exact hadded.trans ((inferInstance : Keeps Unmarked (untranslated text)).of_run hcomment).added

theorem marks_thenReset
    (hx : Marks env σ out x) (a : Action) : Marks env σ out (do
      x
      if !keepsCleared a then modifyFrame fun f => { f with cleared := [] }) := by
  have hrest : ∀ s, ∃ s', (if !keepsCleared a then
      modifyFrame fun f => { f with cleared := [] } else pure () : Render Unit).run env s =
        (.ok (), s') ∧ Added [] s s' := by
    intro s
    split
    · exact ⟨_, rfl, added_lines (List.append_nil _).symm rfl⟩
    · exact ⟨_, rfl, Added.refl s⟩
  refine ⟨fun {s s'' _} hfits hrun => ?_, fun {s s'' text} hfits hrun => ?_⟩
  · obtain ⟨_, s', hxrun, hreset⟩ := exists_of_run_bind hrun
    obtain ⟨s₁, hreset', hadded⟩ := hrest s'
    cases hreset'.symm.trans hreset
    simpa using (hx.ok hfits hxrun).trans hadded
  · rcases hxrun : x.run env s with ⟨_ | a, s'⟩
    · rw [run_bind_error hxrun] at hrun
      cases hrun
      exact hx.untranslatable hfits hxrun
    · rw [run_bind_ok hxrun] at hrun
      obtain ⟨s₁, hreset', -⟩ := hrest s'
      cases hreset'.symm.trans hrun

theorem leaves_bodyStep [Keeps Light (actionLines splice a)]
    (hmarks : Marks env σ out (actionLines splice a)) (hfits : σ.Fits s.frame)
    (hrun : (bodyStep splice a).run env s = (.ok (), s')) : Leaves (out, σ) s s' := by
  have hreset := marks_thenReset hmarks a
  cases hwait : a.isWait with
  | false =>
    rw [bodyStep_of_not_wait hwait] at hrun
    exact leaves_guarded hreset hfits hrun
  | true =>
    have hstep : bodyStep splice a =
        ((modifySession fun s => { s with waits := s.waits + 1 }) >>= fun _ => guarded (do
          actionLines splice a
          if !keepsCleared a then modifyFrame fun f => { f with cleared := [] })) := by
      simp [bodyStep, hwait]
    rw [hstep] at hrun
    obtain ⟨_, _, hcount, hrun⟩ := exists_of_run_bind hrun
    have hleaves := leaves_guarded hreset ((light_count.of_run hcount).fits hfits) hrun
    exact hleaves.between (unmarked_count.of_run hcount) (Composable.refl s') rfl

theorem leaves_plainAction [HoldsValues env.profile.phrases]
    (ha : isPlainStep a = true ∨ a.isWait = true) (hcall : ∀ d, a ≠ .delegate d)
    (hfits : σ.Fits s.frame) (hrun : (bodyStep splice a).run env s = (.ok (), s')) :
    Leaves (if lapsed env σ a then [] else ownMarks env a, σ) s s' := by
  have := light_actionLines splice ha hcall
  exact leaves_bodyStep (marks_actionLines splice ha hcall) hfits hrun

/-- A lookup leaves nothing, and binds its element if it has a target form. -/
theorem leaves_binding {x : Render String} [Keeps Quiet x] [Keeps Silent x] {lacks : Bool}
    (hx : Judges env σ lacks x) {ref : ElementRef} {inline : Bool} (hfits : σ.Fits s.frame)
    (hrun : (guardedStep x (bindElement ref inline)).run env s = (.ok (), s')) :
    Leaves ([], if lacks then σ else σ.bind ref.id) s s' := by
  have hunmarked := (inferInstance : Keeps Unmarked (guardedStep x _)).of_run hrun
  exact ⟨(run_binding hx hfits hrun).2, hunmarked.body, hunmarked.added⟩

/-- Splicing leaves what is listed for it, and lets the frame be. -/
structure Splices (env : Env) (splice : Splicing)
    (listed : Scope → Delegation → MarkList) : Prop where
  light (d : Delegation) : Keeps Light (splice d)
  marks (σ : Scope) (d : Delegation) : Marks env σ (listed σ d) (splice d)

instance (d : Delegation) : Keeps Unmarked (callAction d) := by
  unfold callAction; infer_instance

/-- A call statement leaves nothing, and spliced, what the method leaves. -/
theorem marks_delegate (hsplice : Splices env splice listed)
    (d : Delegation) : Marks env σ (if env.strategy = .inline then listed σ d else [])
      (actionLines splice (.delegate d)) := by
  have hrun : ∀ s, (actionLines splice (.delegate d)).run env s =
      (if env.strategy = .inline then splice d else callAction d).run env s := by
    intro s
    rw [actionLines, run_bind_ok run_read]
  have hmarks : Marks env σ (if env.strategy = .inline then listed σ d else [])
      (if env.strategy = .inline then splice d else callAction d) := by
    split
    · exact hsplice.marks σ d
    · exact .of_unmarked _
  exact ⟨fun hfits h => hmarks.ok hfits (hrun _ ▸ h), fun hfits h => hmarks.untranslatable hfits
    (hrun _ ▸ h)⟩

theorem leaves_step [HoldsValues env.profile.phrases] (hsplice : Splices env splice listed)
    (ha : isForked a = false) (hfits : σ.Fits s.frame)
    (hrun : (bodyStep splice a).run env s = (.ok (), s')) :
    Leaves (marksInAction env listed σ a) s s' := by
  revert hrun
  cases a with
  | wait w => exact leaves_plainAction (.inr rfl) (by simp) hfits
  | delegate d =>
    have := hsplice.light d
    have : Keeps Light (actionLines splice (.delegate d)) := by unfold actionLines; infer_instance
    exact leaves_bodyStep (marks_delegate hsplice d) hfits
  | locate l =>
    intro hrun
    rw [bodyStep_of_not_wait rfl, actionLines, locateAction_eq] at hrun
    exact leaves_binding (judges_lookedUp l) hfits hrun
  | pick k =>
    intro hrun
    rw [bodyStep_of_not_wait rfl, actionLines, pickAction_eq] at hrun
    exact leaves_binding (judges_picked k) hfits hrun
  | branch => cases ha
  | probe body fallback p =>
    intro hrun
    cases hpresence : presenceCheck body fallback with
    | none =>
      rw [isForked, hpresence] at ha
      cases ha
    | some presence =>
      have hlines : actionLines splice (.probe body fallback p) = (do
          emitLine p (fill (← phrases).returnValue [("value", ← valueText presence)])) := by
        rw [actionLines, hpresence]
      have : Keeps Light (actionLines splice (.probe body fallback p)) := by
        rw [hlines]
        infer_instance
      have hmarks : Marks env σ (if σ.lacks env presence then [] else [(.action, p)])
          (actionLines splice (.probe body fallback p)) := by
        rw [hlines]
        exact .after fun _ => Marks.judged (judges_valueText presence) fun _ => marks_emitLine _ _
      rw [marksInAction, hpresence]
      exact leaves_bodyStep hmarks hfits hrun
  | _ => exact leaves_plainAction (.inl rfl) (by simp) hfits

/-- What bodies leave. -/
def markListing [HoldsValues env.profile.phrases] {splice : Splicing}
    {listed : Scope → Delegation → MarkList} (hsplice : Splices env splice listed) :
    markLedger.Listing env splice where
  action := marksInAction env listed
  body := marksIn env listed
  lapsed _ _ := []
  nil {_ s} h := ⟨h, rfl, Added.refl s⟩
  cons _ _ _ := rfl
  branch σ condition thenBody elseBody p := by rfl
  probe σ body fallback p hpresence := by rw [marksInAction, hpresence]; rfl
  lapse _ _ _ _ h := ⟨h.body, h.added⟩
  step h := leaves_step hsplice h

/-- **A body leaves the fragments that are listed for it.** -/
theorem leaves_bodyLines [HoldsValues env.profile.phrases] (hsplice : Splices env splice listed)
    (body : List Action) (hfits : σ.Fits s.frame)
    (hrun : (bodyLines splice body).run env s = (.ok (), s')) :
    Leaves (marksIn env listed σ body) s s' :=
  Ledger.part_bodyLines (markListing hsplice) body hfits hrun

end Bodies

end TestMigration.Rendering
