import TestMigration.Proofs.Rendering.Kinds
/-!
# What the functions of rendering leave alone

Function by function, from values over single actions to whole files, which of the relations of
`Effects` holds. Values leave the frame alone: what an element or a variable is written as does not
depend on the values written before it. Single actions may declare variables, and lookups bind
elements. Bodies apart, nothing that belongs to a file has to do with waits.
-/

namespace TestMigration.Rendering

open TestMigration.Action Text Profile

/-! ### Single actions -/

variable {x : Render Unit} {env : Env} {s s' : State} {e : Option Stop}

instance (c : Call) (target : SourceUnit) (method : Method) (args : List String) :
    Keeps Plain (callText c target method args) := by
  unfold callText callReceiver
  refine .andThen inferInstance fun _ => ?_
  split <;> infer_instance

theorem keeps_untranslated (text : String) : Keeps Plain (untranslated text) := inferInstance

theorem keeps_closeBlock : Keeps Plain closeBlock := inferInstance

/-- A guarded step ends as without the guard, unless a value has no target form. -/
theorem run_guarded (x : Render Unit) (env : Env) (s : State) :
    (guarded x).run env s = match x.run env s with
      | (.error (.untranslatable text), s') => (untranslated text).run env s'
      | r => r := by
  unfold guarded
  rw [run_tryCatch]
  rcases x.run env s with ⟨stop | a, s'⟩
  · cases stop <;> rfl
  · rfl

section Blocks

variable {R : Effect} [Composable R]

theorem keeping_guarded [htext : ∀ text, Keeps R (untranslated text)] {env : Env}
    {x y : Render Unit}
    (h : (Keeping env R).Holds x y) : (Keeping env R).Holds (guarded x) (guarded y) := by
  intro s
  have hx := h s
  rw [run_guarded]
  rcases hrun : x.run env s with ⟨stop | a, s'⟩ <;> rw [hrun] at hx
  · cases stop with
    | untranslatable text => exact Composable.trans hx ((htext text).out env s')
    | refused r => exact hx
    | halted h => exact hx
  · exact hx

instance (x : Render Unit) [∀ text, Keeps R (untranslated text)] [h : Keeps R x] :
    Keeps R (guarded x) :=
  ⟨fun env => keeping_guarded (y := x) (h.out env)⟩

instance (x : Render Unit) : Keeps Translated (guarded x) := by
  refine ⟨fun env s => ?_⟩
  rw [run_guarded]
  rcases x.run env s with ⟨stop | a, s'⟩
  · cases stop with
    | untranslatable text => exact (keeps_untranslated text).out env s' |>.translated
    | refused r => exact nofun
    | halted h => exact nofun
  · exact nofun

instance [Tolerant R] [CodeFree R] (x : Render Unit) [Keeps R x] : Keeps R (block x) := by
  unfold block; infer_instance

end Blocks

/-- A guarded step has given a result, or become a comment. -/
theorem run_guarded_cases (h : (guarded x).run env s = (.ok (), s')) : x.run env s = (.ok (), s') ∨
      ∃ text s₁, x.run env s = (.error (.untranslatable text), s₁) ∧
        (untranslated text).run env s₁ = (.ok (), s') := by
  rw [run_guarded] at h
  rcases hx : x.run env s with ⟨stop | a, s₁⟩
  · rw [hx] at h
    cases stop with
    | untranslatable text => exact .inr ⟨text, s₁, rfl, h⟩
    | refused r => cases h
    | halted r => cases h
  · rw [hx] at h
    exact .inl h

/-- A step in two parts, behind which no field counts as cleared. -/
abbrev guardedStep {α : Type} (x : Render α) (f : α → Render Unit) : Render Unit := guarded (do
  x >>= f
  modifyFrame fun f => { f with cleared := [] })

/-- Only the first part of a step can keep it from being written. -/
theorem run_guardedStep_cases {α : Type} {x : Render α} {f : α → Render Unit}
    [hf : ∀ a, Keeps Translated (f a)] (h : (guardedStep x f).run env s = (.ok (), s')) :
    (∃ text s₁, x.run env s = (.error (.untranslatable text), s₁) ∧
        (untranslated text).run env s₁ = (.ok (), s')) ∨
      ∃ a s₁ s₂, x.run env s = (.ok a, s₁) ∧ (f a).run env s₁ = (.ok (), s₂) ∧
        s' = { s₂ with frame.cleared := [] } := by
  rcases run_guarded_cases h with hok | ⟨text, s₂, hstop, hcomment⟩
  · obtain ⟨_, s₂, hlines, hreset⟩ := exists_of_run_bind hok
    obtain ⟨a, s₁, hx, hlines⟩ := exists_of_run_bind hlines
    exact .inr ⟨a, s₁, s₂, hx, hlines, (congrArg Prod.snd hreset).symm⟩
  · rcases hx : x.run env s with ⟨_ | a, s₁⟩
    · rw [run_bind_error (run_bind_error hx)] at hstop
      cases hstop
      exact .inl ⟨_, _, rfl, hcomment⟩
    · rw [bind_assoc, run_bind_ok hx] at hstop
      exact absurd rfl
        ((inferInstance : Keeps Translated (f a >>= fun _ => modifyFrame _)).of_run hstop text)

/-- A block does what its lines do, one level deeper, with a filler if they are none. -/
theorem exists_filler_of_run_block (h : (block x).run env s = (.ok (), s')) :
    ∃ s₁ s₂, x.run env { s with code := s.code.deeper } = (.ok (), s₁) ∧ (do
        let filler := (← phrases).emptyBlock
        if (← statements) = s.code.statements && !filler.isEmpty then
          line filler : Render Unit).run env s₁ = (.ok (), s₂) ∧ s' = { s₂ with code := s₂.code.shallower } := by
  unfold block at h
  obtain ⟨_, _, hbefore, h⟩ := exists_of_run_bind h
  cases hbefore
  obtain ⟨s₂, hinner, rfl⟩ := exists_of_run_indented h
  obtain ⟨_, s₁, hx, hrest⟩ := exists_of_run_bind hinner
  exact ⟨s₁, s₂, hx, hrest, rfl⟩

/-- Behind a block, the frame and what counts waits are those behind its lines. -/
theorem exists_of_run_block (h : (block x).run env s = (.ok (), s')) :
    ∃ s₁, x.run env { s with code := s.code.deeper } = (.ok (), s₁) ∧ Quiet s₁ none s' := by
  obtain ⟨s₁, s₂, hx, hrest, rfl⟩ := exists_filler_of_run_block h
  have hquiet : Quiet s₁ none s₂ := Keeps.of_run hrest
  exact ⟨s₁, hx, ⟨hquiet.waits, hquiet.entries⟩, hquiet.frame⟩

instance (name : String) :
    Keeps Calm (modifyFrame fun f => { f with declared := insertNew name f.declared }) :=
  ⟨fun _ _ => ⟨⟨rfl, rfl⟩, ⟨_, rfl⟩⟩⟩

/-- The frame and the number of waits stay, with at most one new fragment of a wait. -/
structure Waited (s : State) (e : Option Stop) (s' : State) : Prop where
  frame : s'.frame = s.frame
  waits : s'.session.waits = s.session.waits
  entries : waitEntries s'.session ≤ waitEntries s.session + 1

theorem Quiet.waited (h : Quiet s e s') : Waited s e s' :=
  ⟨h.frame, h.waits, by rw [h.entries]; exact Nat.le_succ _⟩

theorem Keeps.thenWaited {α β : Type} {x : Render α} {f : α → Render β} (hx : Keeps Quiet x)
    (hf : ∀ a, Keeps Waited (f a)) : Keeps Waited (x >>= f) := by
  refine ⟨fun env s => ?_⟩
  rcases hrun : x.run env s with ⟨_ | a, s'⟩
  · rw [run_bind_error hrun]
    exact (hx.of_run hrun).waited
  · rw [run_bind_ok hrun]
    have hquiet := hx.of_run hrun
    have hwaited := (hf a).out env s'
    refine ⟨hwaited.frame.trans hquiet.frame, hwaited.waits.trans hquiet.waits, ?_⟩
    rw [← hquiet.entries]
    exact hwaited.entries

instance keeps_waitAction (w : Wait) : Keeps Waited (waitAction w) := by
  have hwrite : ∀ text, Keeps Waited (do
      line text
      trace .wait w.provenance text
      trace .action w.provenance text) := by
    refine fun text => ⟨fun env s => ⟨rfl, rfl, ?_⟩⟩
    change waitEntries { s.session with trace := s.session.trace ++ [_] ++ [_] } ≤ _
    simp [waitEntries, List.countP_append]
  unfold waitAction
  refine .thenWaited inferInstance fun p => ?_
  split
  · exact (keeps_refuseAt _ _).mono fun h => h.toQuiet.waited
  · refine .thenWaited inferInstance fun args => Keeps.thenWaited inferInstance fun millis => ?_
    cases w.target with
    | none =>
      refine .thenWaited inferInstance fun target => Keeps.thenWaited inferInstance fun f => ?_
      exact hwrite _
    | some =>
      refine .thenWaited inferInstance fun e => Keeps.thenWaited inferInstance fun target =>
        Keeps.thenWaited inferInstance fun f => ?_
      exact hwrite _

/-! ### Bodies -/

def bodyStep (splice : Splicing) (a : Action) : Render Unit := do
  if a.isWait then modifySession fun s => { s with waits := s.waits + 1 }
  guarded do
    actionLines splice a
    if !keepsCleared a then modifyFrame fun f => { f with cleared := [] }

theorem bodyLines_nil (splice : Splicing) : bodyLines splice [] = pure () := by
  rw [bodyLines]

theorem bodyLines_cons (splice : Splicing) (a : Action) (rest : List Action) :
    bodyLines splice (a :: rest) = (bodyStep splice a >>= fun _ => bodyLines splice rest) := by
  rw [bodyLines, bodyStep]
  split <;> simp

theorem bodyStep_of_not_wait {splice : Splicing} {a : Action} (h : a.isWait = false) :
    bodyStep splice a = guarded (do
      actionLines splice a
      if !keepsCleared a then modifyFrame fun f => { f with cleared := [] }) := by
  simp [bodyStep, h]

theorem bodyStep_wait (splice : Splicing) (w : Wait) : bodyStep splice (.wait w) =
    ((modifySession fun s => { s with waits := s.waits + 1 }) >>= fun _ =>
      guarded (waitAction w)) := by
  simp [bodyStep, actionLines, isWait, keepsCleared]

theorem Waited.trans_quiet {s'' : State} {e' : Option Stop} (h : Waited s e s')
    (h' : Quiet s' e' s'') : Waited s e' s'' :=
  ⟨h'.frame.trans h.frame, h'.waits.trans h.waits, by rw [h'.entries]; exact h.entries⟩

theorem waited_guarded (h : Keeps Waited x) : Keeps Waited (guarded x) := by
  refine ⟨fun env s => ?_⟩
  rw [run_guarded]
  rcases hrun : x.run env s with ⟨stop | a, s'⟩
  · have hx := h.of_run hrun
    cases stop with
    | untranslatable text =>
      exact hx.trans_quiet ((keeps_untranslated text).out env s').toQuiet
    | refused r => exact hx
    | halted h => exact hx
  · exact h.of_run hrun

/-- A wait is counted, and then written at most once; the frame stays. -/
theorem run_bodyStep_wait (splice : Splicing) (w : Wait) (env : Env) (s : State) :
    Waited { s with session := { s.session with waits := s.session.waits + 1 } }
      (stopOf ((bodyStep splice (.wait w)).run env s).1)
        ((bodyStep splice (.wait w)).run env s).2 := by
  rw [bodyStep_wait]
  exact (waited_guarded (keeps_waitAction w)).out env _

instance (splice : Splicing) (body : List Action) :
    Keeps Translated (bodyLines splice body) := by
  induction body with
  | nil =>
    rw [bodyLines_nil]
    infer_instance
  | cons a =>
    rw [bodyLines_cons]
    unfold bodyStep
    infer_instance

/-- The sides of a fork as blocks; an empty second one that need not be there is left out. -/
def forkLines (splice : Splicing) (opening turn : Phrases → String) (both : Bool)
    (first second : List Action) : Render Unit := do
  line (opening (← phrases))
  block (bodyLines splice first)
  if both || !second.isEmpty then
    line (turn (← phrases))
    block (bodyLines splice second)
  closeBlock

theorem actionLines_branch (splice : Splicing) (condition : Value)
    (thenBody elseBody : List Action) (p : Provenance) :
    actionLines splice (.branch condition thenBody elseBody p) =
      (valueText condition >>= fun test =>
      forkLines splice (fun p => fill p.ifOpen [("condition", test)]) (·.elseOpen) false thenBody
        elseBody) := by
  rfl

/-- A probe that only asks whether an element can be seen has a return on each side. -/
theorem presenceCheck_eq_some_iff {body fallback : List Action} {presence : Value} :
    presenceCheck body fallback = some presence ↔ ∃ ref arg p l q,
      body = [.ret (some (.elementQuery ref "visible" arg)) p] ∧
        fallback = [.ret (some (.literal l)) q] ∧
        l.value = .flag false ∧ presence = .elementQuery ref "visible" arg := by
  constructor
  · intro h
    unfold presenceCheck at h
    split at h
    · rename_i ref arg p l q
      split at h
      · rename_i hfalse
        cases h
        exact ⟨ref, arg, p, l, q, rfl, rfl, hfalse, rfl⟩
      · cases h
    · cases h
  · rintro ⟨ref, arg, p, l, q, rfl, rfl, hfalse, rfl⟩
    rw [presenceCheck, if_pos hfalse]

theorem actionLines_probe {splice : Splicing} {body fallback : List Action}
    (p : Provenance) (h : presenceCheck body fallback = none) :
    actionLines splice (.probe body fallback p) =
      forkLines splice (·.tryOpen) (·.catchOpen) true body fallback := by
  rw [actionLines, h]
  simp [forkLines]

section Fork

variable {R : Effect} [Composable R] [Tolerant R] [CodeFree R]
variable {splice : Splicing}
variable {first second : List Action}

theorem keeps_forkLines (opening turn : Phrases → String) (both : Bool)
    (hfirst : Keeps R (bodyLines splice first)) (hsecond : Keeps R (bodyLines splice second)) :
    Keeps R (forkLines splice opening turn both first second) := by
  refine .andThen inferInstance fun _ => Keeps.andThen inferInstance fun _ =>
    Keeps.andThen inferInstance fun _ => ?_
  infer_instance

/-- The sides of a fork are rendered one after the other, but for an empty second one. -/
theorem exists_of_run_forkLines {opening turn : Phrases → String} {both : Bool} {env : Env}
    {s s' : State}
    (hrun : (forkLines splice opening turn both first second).run env s = (.ok (), s')) :
    ∃ s₁ s₂, (line (opening env.profile.phrases)).run env s = (.ok (), s₁) ∧
      (block (bodyLines splice first)).run env s₁ = (.ok (), s₂) ∧
      ((both || !second.isEmpty) = false ∧ second = [] ∧ closeBlock.run env s₂ = (.ok (), s') ∨
        (both || !second.isEmpty) = true ∧ ∃ s₃ s₄,
          (line (turn env.profile.phrases)).run env s₂ = (.ok (), s₃) ∧
          (block (bodyLines splice second)).run env s₃ = (.ok (), s₄) ∧
          closeBlock.run env s₄ = (.ok (), s')) := by
  unfold forkLines at hrun
  rw [run_bind_ok run_phrases] at hrun
  obtain ⟨_, s₁, hopening, hrun⟩ := exists_of_run_bind hrun
  obtain ⟨_, s₂, hfirst, hrest⟩ := exists_of_run_bind hrun
  refine ⟨s₁, s₂, hopening, hfirst, ?_⟩
  by_cases hboth : (both || !second.isEmpty) = true
  · rw [if_pos hboth, run_bind_ok run_phrases] at hrest
    obtain ⟨_, s₃, hturn, hrest⟩ := exists_of_run_bind hrest
    obtain ⟨_, s₄, hsecond, hclose⟩ := exists_of_run_bind hrest
    exact .inr ⟨hboth, s₃, s₄, hturn, hsecond, hclose⟩
  · rw [if_neg hboth] at hrest
    have hempty : second = [] := by
      cases second <;> simp_all
    exact .inl ⟨by simpa using hboth, hempty, hrest⟩

instance (opening turn : Phrases → String) (both : Bool) (first second : List Action) :
    Keeps Translated (forkLines splice opening turn both first second) :=
  keeps_forkLines opening turn both inferInstance inferInstance

end Fork

/-! ### Files -/

section Sections

variable {R : Effect} [Composable R] [Tolerant R] {α : Type}

instance (level : Nat) (x : Render α) [Keeps R x] : Keeps R (lineGroup level x) := by
  unfold lineGroup; infer_instance

instance (level : Nat) (x : Render Unit) [Keeps R x] :
    Keeps R (fileSection level x) := by unfold fileSection; infer_instance

end Sections

instance : Keeps Plain constantSections := by
  unfold constantSections; infer_instance

theorem exists_of_run_body {actions : List Action} (h : (body actions).run env s = (.ok (), s')) :
    ∃ s₁, (declareObjects actions).run env { s with frame := { s.frame with
          reassigned := (mutableNames actions).foldl (fun names n => insertNew n names)
            s.frame.reassigned } } = (.ok (), s₁) ∧
      (bodyLines (spliceCall (methodCount env.model)) actions).run env s₁ = (.ok (), s') := by
  obtain ⟨_, _, hreassigned, h⟩ := exists_of_run_bind h
  cases hreassigned
  obtain ⟨_, s₁, hdeclare, h⟩ := exists_of_run_bind h
  exact ⟨s₁, hdeclare, h⟩

theorem exists_of_run_renderBody {actions : List Action} {f : Frame} {declared : List String}
    (h : (renderBody actions f).run env s = (.ok declared, s')) : ∃ objects s₁ s₂,
      (if f.mode = .test || f.mode = .function then contextObjects else pure []).run env s =
        (.ok objects, s₁) ∧
      (body actions).run env { s₁ with frame := { f with contextObjects := objects } } =
        (.ok (), s₂) ∧
      declared = s₂.frame.declared ∧ s' = { s₂ with frame := s₁.frame } := by
  unfold renderBody at h
  dsimp only at h
  split at h <;>
  · obtain ⟨objects, s₁, _, hframed⟩ := exists_of_run_bind h
    obtain ⟨s₂, hinner, rfl⟩ := exists_of_run_inFrame hframed
    obtain ⟨_, _, hbody, hdeclared⟩ := exists_of_run_bind hinner
    cases hdeclared
    exact ⟨objects, s₁, _, by simp [*], hbody, rfl, rfl⟩

instance (env : Env) : Kind.Frames env (Keeping env Quiet) where
  ofInFrame _ _ _ _ hx s := by
    rw [run_inFrame]
    exact ⟨⟨(hx _).waits, (hx _).entries⟩, rfl⟩

/-! ### Units -/

def Env.start (env : Env) : State where
  frame := { unit := env.unit, mode := .test, page := "", body := "" }

theorem renderTo_cases {s : Session} {path : String} {ending : Except Refusal String}
    (h : renderTo env path = .ok (ending, s)) : ∃ final, final.session = s ∧
      ((∃ text, ending = .ok text ∧ (fileText path).run env env.start = (.ok text, final)) ∨
        ∃ r, ending = .error r ∧ (fileText path).run env env.start =
          (.error (.refused r), final)) := by
  unfold renderTo at h
  dsimp only at h
  rcases hrun : (fileText path).run env env.start with ⟨stop | text, final⟩
  · rw [← Env.start, hrun] at h
    cases stop with
    | refused r =>
      cases h
      exact ⟨final, rfl, .inr ⟨r, rfl, rfl⟩⟩
    | untranslatable text | halted _ => cases h
  · rw [← Env.start, hrun] at h
    cases h
    exact ⟨final, rfl, .inl ⟨text, rfl, rfl⟩⟩

/-- A unit is written if its text passes the checks, and refused by its rendering or a check. -/
theorem renderUnit_cases {s : Session} {ending : Except Refusal OutputUnit}
    (h : renderUnit env = .ok (ending, s)) : ∃ path, outputPath env.profile env.unit = .ok path ∧
      ((∃ r, ending = .error r ∧ renderTo env path = .ok (.error r, s)) ∨
        ∃ text, renderTo env path = .ok (.ok text, s) ∧
          ((∃ r, ending = .error r ∧ runGates env text s = .error r) ∨
            ∃ results, runGates env text s = .ok results ∧ ending = .ok
              { qualifiedName := dotted path, path, kind := env.unit.kind
                source := env.unit.unitName, text })) := by
  unfold renderUnit at h
  obtain ⟨path, hpath, h⟩ := bind_eq_ok_iff.mp h
  obtain ⟨⟨refusal | text, session⟩, hrendered, h⟩ := bind_eq_ok_iff.mp h
  · cases h
    exact ⟨path, hpath, .inl ⟨refusal, rfl, hrendered⟩⟩
  · refine ⟨path, hpath, .inr ⟨text, ?_⟩⟩
    dsimp only at h
    cases hgates : runGates env text session with
    | error refusal =>
      rw [hgates] at h
      cases h
      exact ⟨hrendered, .inl ⟨refusal, rfl, hgates⟩⟩
    | ok results =>
      rw [hgates] at h
      cases h
      exact ⟨hrendered, .inr ⟨results, hgates, rfl⟩⟩

/-!
### Steps that write nothing

The text of a value is computed before anything is written. On the way imports are noted and remarks
are made, and the locator of a field leaves a fragment; but no line is written, the frame stays, and
no fragment of an action appears. That is `Silent`. It holds also if the value has no target form,
so a statement that is given up has written nothing.

The relation is the strongest one that all functions on values keep, whatever the way they end.
-/

/-- The fragments added to the trace of a body are those of locators. -/
def OnlyLocators (s s' : State) : Prop :=
  ∃ entries, s'.session.trace = s.session.trace ++ entries ∧
    ∀ e ∈ entries, e.kind = .locator ∧ e.body = s.frame.body

/-- Nothing is written: frame and code stay, and only fragments of locators are added. -/
structure Silent (s : State) (_ : Option Stop) (s' : State) : Prop where
  frame : s'.frame = s.frame
  code : s'.code = s.code
  trace : OnlyLocators s s'

theorem OnlyLocators.refl (s : State) : OnlyLocators s s := ⟨[], by simp, by simp⟩

theorem OnlyLocators.trans {s s' s'' : State} (h : OnlyLocators s s') (hframe : s'.frame = s.frame)
    (h' : OnlyLocators s' s'') : OnlyLocators s s'' := by
  obtain ⟨entries, htrace, hentries⟩ := h
  obtain ⟨entries', htrace', hentries'⟩ := h'
  refine ⟨entries ++ entries', by rw [htrace', htrace, List.append_assoc], fun e he => ?_⟩
  rcases List.mem_append.mp he with he | he
  · exact hentries e he
  · exact hframe ▸ hentries' e he

instance : Composable Silent where
  refl s := ⟨rfl, rfl, OnlyLocators.refl s⟩
  trans h h' := ⟨h'.frame.trans h.frame, h'.code.trans h.code, h.trace.trans h.frame h'.trace⟩

instance silent_throw {α : Type} (stop : Stop) : Keeps Silent (throw stop : Render α) :=
  ⟨fun _ s => ⟨rfl, rfl, OnlyLocators.refl s⟩⟩

theorem silent_modifySession {f : Session → Session} (htrace : ∀ s, (f s).trace = s.trace) :
    Keeps Silent (modifySession f) :=
  ⟨fun _ s => ⟨rfl, rfl, [], (htrace s.session).trans (List.append_nil _).symm, by simp⟩⟩

instance silent_trace_locator (p : Provenance) (fragment : String) (l : Option Locator)
    (scope : String) : Keeps Silent (trace .locator p fragment l scope) :=
  ⟨fun _ _ => ⟨rfl, rfl, [_], rfl, by simp⟩⟩

instance silent_note (key message : String) (position : Option Position) :
    Keeps Silent (note key message position) := by
  refine .andThen inferInstance fun env => silent_modifySession fun s => ?_
  split <;> rfl

instance silent_needClass (u : SourceUnit) : Keeps Silent (needClass u) := by
  have := silent_modifySession
    (f := fun s => { s with classImports := Table.put u.unitName u s.classImports }) fun _ => rfl
  unfold needClass; infer_instance

instance silent_needModule (u : SourceUnit) : Keeps Silent (needModule u) := by
  have := silent_modifySession
    (f := fun s => { s with moduleImports := Table.put u.unitName u s.moduleImports }) fun _ => rfl
  unfold needModule; infer_instance

instance silent_needFunction (u : SourceUnit) (function : String) :
    Keeps Silent (needFunction u function) := by
  exact silent_modifySession fun _ => rfl

instance (env : Env) : Kind.Halts env (Keeping env Silent) where
  ofRefusal _ _ s := ⟨rfl, rfl, OnlyLocators.refl s⟩
  ofAnyHalt _ := (silent_throw _).out env

/-- **The text of a value is found in silence.** -/
instance (env : Env) : Kind.Values env (Keeping env Silent) where
  ofVerbatim _ := (silent_throw _).out env
  ofNote key message position := (silent_note key message position).out env
  ofClass _ := (silent_needClass _).out env
  ofModule _ := (silent_needModule _).out env
  ofFunction _ name := (silent_needFunction _ name).out env
  ofLocator p fragment l scope := (silent_trace_locator p fragment l scope).out env

/-!
### Steps that never stop

Much of what rendering does cannot fail: it writes lines, makes remarks and notes what has to be
imported, and what it looks up has a default. In a comparison of two renderings such a step is taken
wherever it is reached (`exists_of_completes`). In the terms of `Keeps` these are the steps in the
relation `Completes`, so here too a function has the property by its parts.
-/

def Completes (_ : State) (e : Option Stop) (_ : State) : Prop := e = none

instance : Composable Completes where
  refl _ := rfl
  trans _ h := h

/-- A step that never stops gives a result. -/
theorem exists_of_completes {α : Type} (x : Render α) [h : Keeps Completes x] (env : Env)
    (s : State) : ∃ a s', x.run env s = (.ok a, s') := by
  have hout := h.out env s
  rcases hrun : x.run env s with ⟨_ | a, s'⟩
  · rw [hrun] at hout
    cases hout
  · exact ⟨a, s', rfl⟩

instance (f : Session → Session) : Keeps Completes (modifySession f) :=
  ⟨fun _ _ => rfl⟩

instance (f : Frame → Frame) : Keeps Completes (modifyFrame f) :=
  ⟨fun _ _ => rfl⟩

instance (f : Code → Code) : Keeps Completes (modifyCode f) :=
  ⟨fun _ _ => rfl⟩

instance completes_needClass (u : SourceUnit) : Keeps Completes (needClass u) := by
  unfold needClass; infer_instance

instance completes_needModule (u : SourceUnit) : Keeps Completes (needModule u) := ⟨fun _ _ => rfl⟩

instance completes_needFunction (u : SourceUnit) (function : String) :
    Keeps Completes (needFunction u function) := ⟨fun _ _ => rfl⟩

instance completes_trace (kind : TraceKind) (p : Provenance) (fragment : String)
    (l : Option Locator)
    (scope : String) : Keeps Completes (trace kind p fragment l scope) := ⟨fun _ _ => rfl⟩

instance (env : Env) : Kind.Remarks env (Keeping env Completes) where
  ofNote _ _ _ _ := rfl
  ofClass _ := (completes_needClass _).out env
  ofModule _ := (completes_needModule _).out env
  ofFunction _ _ := (completes_needFunction _ _).out env
  ofLocator _ _ _ _ := (completes_trace ..).out env

instance (env : Env) : Kind.Lays env (Keeping env Completes) where
  ofLine _ _ := rfl
  ofComment _ _ := rfl
  ofStatements _ := rfl
  ofLineCount _ := rfl
  ofBlank _ _ := rfl
  ofIndented hx s := by
    rw [run_indented]
    exact hx _

instance (env : Env) : Kind.Binds env (Keeping env Completes) where
  ofDeclare _ _ := rfl
  ofElement _ _ _ := rfl

instance (env : Env) : Kind.Acts env (Keeping env Completes) where
  ofAction _ _ _ _ := (completes_trace ..).out env

instance {α : Type} (level : Nat) (x : Render α) [Keeps Completes x] :
    Keeps Completes (lineGroup level x) := by unfold lineGroup; infer_instance

instance completes_fileSection (level : Nat) (x : Render Unit) [Keeps Completes x] :
    Keeps Completes (fileSection level x) := by unfold fileSection; infer_instance

end TestMigration.Rendering
