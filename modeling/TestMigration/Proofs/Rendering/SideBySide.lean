import TestMigration.Proofs.Rendering.FrameSteps
import TestMigration.Proofs.Rendering.UnitKinds
/-!
# Two renderings side by side

A unit is rendered twice: from states that differ in their sessions, with two models, or with both.
A *view* says what is known of the two sessions and in which frames steps are taken. Two steps match
if from states that look the same in the view they end with the same result and in such states
(`Matching`).

A field defined through itself is followed as often as there are fields, so with two models the
rendering that ends for that reason may name another field. That is why two such endings always
match. That apart, it does not matter how often fields may be followed, if only as often as there
are fields that can be reached (`matching_fieldElement`): with every level the fields whose text is
found become more, until there is a level on which none is added.
-/

namespace TestMigration.Rendering

open TestMigration.Action Text Profile

/-! ### Views -/

/-- The end of a rendering that has run in a circle. -/
def Circular {α : Type} (r : Except Stop α) : Prop :=
  ∃ field, r = .error (.halted (.circularLocator field))

/-- What two renderings have in common. -/
structure View where
  /-- The frames in which steps are taken. -/
  frames : Frame → Prop := fun _ => True
  Seen : Type := Unit
  seen : Session → Seen := by exact fun _ => ()
  /-- The second rendering may go on where the first has run in a circle. -/
  oneSided : Prop := False

namespace View

/-- Two states that look the same in a view. -/
structure Alike (V : View) (s t : State) : Prop where
  frame : t.frame = s.frame
  code : t.code = s.code
  session : V.seen t.session = V.seen s.session
  allowed : V.frames s.frame

/-- Two renderings end in the same way, or in a circle. -/
inductive Agree (V : View) {α : Type} : Except Stop α × State → Except Stop α × State → Prop where
  | same {r : Except Stop α} {s t : State} (h : V.Alike s t) : V.Agree (r, s) (r, t)
  | circular {r r' : Except Stop α} {s t : State} (h : Circular r) (h' : V.oneSided ∨ Circular r') :
    V.Agree (r, s) (r', t)

/-- What is seen of two sessions stays the same, whatever is added to both. -/
class Shared {Seen : Type} (seen : Session → Seen) : Prop where
  trace {s t : Session} (e : TraceEntry) : seen t = seen s →
    seen { t with trace := t.trace ++ [e] } = seen { s with trace := s.trace ++ [e] }
  count {s t : Session} : seen t = seen s →
    seen { t with waits := t.waits + 1 } = seen { s with waits := s.waits + 1 }
  note {s t : Session} (key : String) (d : Diagnostic) : seen t = seen s →
    seen (if t.notes.contains key then t
        else { t with notes := key :: t.notes, diagnostics := t.diagnostics ++ [d] }) =
      seen (if s.notes.contains key then s
        else { s with notes := key :: s.notes, diagnostics := s.diagnostics ++ [d] })
  ofClass {s t : Session} {u u' : SourceUnit} (hu : u.SameInterface u') : seen t = seen s →
    seen { t with classImports := Table.put u.unitName u' t.classImports } =
      seen { s with classImports := Table.put u.unitName u s.classImports }
  ofModule {s t : Session} {u u' : SourceUnit} (hu : u.SameInterface u') : seen t = seen s →
    seen { t with moduleImports := Table.put u.unitName u' t.moduleImports } =
      seen { s with moduleImports := Table.put u.unitName u s.moduleImports }
  ofFunction {s t : Session} {u u' : SourceUnit} (hu : u.SameInterface u') (function : String) :
    seen t = seen s →
    seen { t with functionImports := Table.put u.unitName (u', insertNew function
        (((Table.get? u.unitName t.functionImports).map (·.2)).getD [])) t.functionImports } =
      seen { s with functionImports := Table.put u.unitName (u, insertNew function
        (((Table.get? u.unitName s.functionImports).map (·.2)).getD [])) s.functionImports }

instance : Shared fun _ => () where
  trace _ _ := rfl
  count _ := rfl
  note _ _ _ := rfl
  ofClass _ _ := rfl
  ofModule _ _ := rfl
  ofFunction _ _ _ := rfl

/-- Any frame of the unit and of its superclasses may be entered. -/
class Whole (V : View) (env : Env) : Prop where
  reframe {o o' : Frame} : V.frames o → o'.unit = o.unit → V.frames o'
  here : ∃ o, V.frames o ∧ o.unit = env.unit
  inherited {chain : List SourceUnit} : env.model.superclassChain env.unit.unitName = .ok chain →
    ∀ u ∈ chain, ∃ o, V.frames o ∧ o.unit = u

end View

/-- The steps that match, with one model and with another. -/
def Matching (env : Env) (m : Model) (V : View) : Kind where
  Holds x y := ∀ s t, V.Alike s t → V.Agree (x.run env s) (y.run { env with model := m } t)
  inside u := ∃ o, V.frames o ∧ o.unit = u

/-- The two models look the same for the units of the frames. -/
class Paired (env : Env) (m : Model) (V : View) : Prop where
  beside : Beside (Matching env m V).inside env.model m

instance {env : Env} {V : View} : Paired env env.model V := ⟨.refl _⟩

/-! ### Values -/

section Values

variable {env : Env} {m : Model} {V : View} [Paired env m V]

instance : Kind.Halts env (Matching env m V) where
  ofPure _ _ _ h := .same h
  ofAsk h := h m Paired.beside
  ofFrame := by
    intro β f g h s t halike
    change V.Agree _ ((g t.frame).run _ t)
    rw [halike.frame]
    exact h s.frame ⟨s.frame, halike.allowed, rfl⟩ s t halike
  ofBind := by
    intro α β x y f g hx hf s t halike
    rw [run_bind, run_bind]
    have hfirst := hx s t halike
    rcases hrun : x.run env s with ⟨r, _⟩
    rcases hrun' : y.run { env with model := m } t with ⟨_, _⟩
    rw [hrun, hrun'] at hfirst
    rcases hfirst with hsame | ⟨⟨field, rfl⟩, hcircle⟩
    · cases r with
      | ok a => exact hf hrun _ _ hsame
      | error => exact .same hsame
    · refine .circular ⟨field, rfl⟩ (hcircle.imp_right ?_)
      rintro ⟨field', rfl⟩
      exact ⟨field', rfl⟩
  ofRefusal _ _ _ _ h := .same h
  ofAnyHalt _ _ _ h := .same h

variable [View.Shared V.seen]

omit [Paired env m V] in
theorem matching_trace (kind : TraceKind) (p : Provenance) (fragment : String) (l : Option Locator)
    (scope : String) :
    (Matching env m V).Holds (trace kind p fragment l scope) (trace kind p fragment l scope) := by
  intro s t h
  have hsession := @View.Shared.trace _ V.seen _ _ _
    { kind, provenance := p, fragment, body := s.frame.body, locator := l, scope } h.session
  refine .same (r := .ok ()) ⟨h.frame, h.code, ?_, h.allowed⟩
  change V.seen { t.session with trace := t.session.trace ++
    [{ kind, provenance := p, fragment, body := t.frame.body, locator := l, scope }] } = _
  rw [h.frame]
  exact hsession

instance : Kind.Values env (Matching env m V) where
  ofVerbatim _ _ _ h := .same h
  ofNote _ _ _ _ _ h := .same ⟨h.frame, h.code, View.Shared.note _ _ h.session, h.allowed⟩
  ofClass := by
    intro u u' hu s t h
    unfold needClass
    rw [hu.unitName]
    change V.Agree ((if u.unitName != env.unit.unitName then _ else _ : Render Unit).run env s)
      ((if u.unitName != env.unit.unitName then _ else _ : Render Unit).run _ t)
    split
    · exact .same ⟨h.frame, h.code, View.Shared.ofClass hu.toSameInterface h.session, h.allowed⟩
    · exact .same h
  ofModule := by
    intro u u' hu s t h
    have halias : moduleAlias env.profile u' = moduleAlias env.profile u := by
      rw [moduleAlias, hu.simpleName, moduleAlias]
    have hsession := View.Shared.ofModule hu.toSameInterface h.session
    unfold needModule
    rw [hu.unitName]
    change V.Agree (.ok (moduleAlias env.profile u), _) (.ok (moduleAlias env.profile u'), _)
    rw [halias]
    exact .same ⟨h.frame, h.code, hsession, h.allowed⟩
  ofFunction := by
    intro u u' hu name s t h
    have hsession := View.Shared.ofFunction hu.toSameInterface name h.session
    unfold needFunction
    rw [hu.unitName]
    exact .same ⟨h.frame, h.code, hsession, h.allowed⟩
  ofLocator := matching_trace .locator

end Values

/-! ### Bodies and files -/

section Steps

variable {env : Env} {m : Model} {V : View}

theorem matching_modifyCode (f : Code → Code) :
    (Matching env m V).Holds (modifyCode f) (modifyCode f) := fun _ _ h =>
  .same ⟨h.frame, congrArg f h.code, h.session, h.allowed⟩

theorem matching_modifyFrame [hwhole : V.Whole env] {f : Frame → Frame}
    (hf : ∀ o, (f o).unit = o.unit) :
    (Matching env m V).Holds (modifyFrame f) (modifyFrame f) := fun _ _ h =>
  .same ⟨congrArg f h.frame, h.code, h.session, hwhole.reframe h.allowed (hf _)⟩

theorem View.Agree.restore {α : Type} {p q : Except Stop α × State} (h : V.Agree p q)
    (f g : State → State) (hback : ∀ {s t}, V.Alike s t → V.Alike (f s) (g t)) :
    V.Agree (p.1, f p.2) (q.1, g q.2) := by
  rcases h with hsame | ⟨hcircle, hcircle'⟩
  · exact .same (hback hsame)
  · exact .circular hcircle hcircle'

theorem matching_lineGroup {α : Type} {x y : Render α} (level : Nat)
    (h : (Matching env m V).Holds x y) :
    (Matching env m V).Holds (lineGroup level x) (lineGroup level y) := by
  intro s t halike
  have hinner := h (s.anew env level) (t.anew { env with model := m } level)
    ⟨halike.frame, rfl, halike.session, halike.allowed⟩
  rw [run_lineGroup, run_lineGroup]
  revert hinner
  generalize x.run env _ = p
  generalize y.run _ _ = q
  rintro (@⟨r, _, _, hsame⟩ | ⟨⟨field, rfl⟩, hcircle⟩)
  · cases r with
    | ok a =>
      dsimp only
      rw [hsame.code]
      exact .same ⟨hsame.frame, halike.code, hsame.session, hsame.allowed⟩
    | error => exact .same hsame
  · refine .circular ⟨field, rfl⟩ (hcircle.imp_right ?_)
    rintro ⟨field', rfl⟩
    exact ⟨field', rfl⟩

variable [Paired env m V] [View.Shared V.seen]

instance : Kind.Lays env (Matching env m V) where
  ofLine _ := matching_modifyCode _
  ofComment _ := matching_modifyCode _
  ofStatements := by
    intro s t h
    change V.Agree (.ok s.code.statements, s) (.ok t.code.statements, t)
    rw [h.code]
    exact .same h
  ofLineCount := by
    intro s t h
    change V.Agree (.ok s.code.lines.length, s) (.ok t.code.lines.length, t)
    rw [h.code]
    exact .same h
  ofBlank _ := matching_modifyCode _
  ofIndented hx s t h := by
    rw [run_indented, run_indented]
    have hinner := hx { s with code := s.code.deeper } { t with code := t.code.deeper }
      ⟨h.frame, congrArg Code.deeper h.code, h.session, h.allowed⟩
    exact hinner.restore (fun s => { s with code := s.code.shallower })
      (fun t => { t with code := t.code.shallower })
      fun h' => ⟨h'.frame, congrArg Code.shallower h'.code, h'.session, h'.allowed⟩

instance : Kind.Acts env (Matching env m V) where
  ofAction := matching_trace .action

variable [hwhole : V.Whole env]

instance : Kind.Frames env (Matching env m V) where
  here := hwhole.here
  ofInFrame f hf x y hx s t h := by
    obtain ⟨o, ho, hunit⟩ := hf
    rw [run_inFrame, run_inFrame]
    have hinner := hx { s with frame := f } { t with frame := f }
      ⟨rfl, h.code, h.session, hwhole.reframe ho hunit.symm⟩
    exact hinner.restore (fun s' => { s' with frame := s.frame })
      (fun t' => { t' with frame := t.frame }) fun h' => ⟨h.frame, h'.code, h'.session, h.allowed⟩

instance : Kind.Binds env (Matching env m V) where
  ofDeclare _ := by
    refine matching_modifyFrame ?_
    exact fun _ => rfl
  ofElement _ _ := by
    refine matching_modifyFrame ?_
    exact fun _ => rfl

instance is_waitAction [Kind.Fields env (Matching env m V)] (w : Wait) :
    Is env (Matching env m V) (waitAction w) := by
  have := fun text =>
    (⟨matching_trace .wait w.provenance text none ""⟩ : Is env (Matching env m V) _)
  refine .after inferInstance fun _ => ?_
  split
  · infer_instance
  · refine .after inferInstance fun _ => Akin.after inferInstance fun _ => ?_
    cases w.target with
    | none => exact .after inferInstance fun _ => Akin.after inferInstance fun _ => inferInstance
    | some =>
      exact .after inferInstance fun _ => Akin.after inferInstance fun _ =>
        Akin.after inferInstance fun _ => inferInstance

theorem matching_guarded {x y : Render Unit} (hx : (Matching env m V).Holds x y) :
    (Matching env m V).Holds (guarded x) (guarded y) := by
  intro s t h
  have hinner := hx s t h
  rw [run_guarded, run_guarded]
  revert hinner
  generalize x.run env s = p
  generalize y.run _ t = q
  rintro (@⟨r, _, _, hsame⟩ | ⟨⟨field, rfl⟩, hcircle⟩)
  · rcases r with (r | text | _) | a
    · exact .same hsame
    · exact (is_untranslated text : Is env (Matching env m V) _).out _ _ hsame
    · exact .same hsame
    · exact .same hsame
  · refine .circular ⟨field, rfl⟩ (hcircle.imp_right ?_)
    rintro ⟨field', rfl⟩
    exact ⟨field', rfl⟩

instance [Kind.Fields env (Matching env m V)] : Kind.Writes env (Matching env m V) where
  ofModifyFrame hf := matching_modifyFrame fun o => (hf o).1
  ofGuarded := matching_guarded
  ofWaitStep splice w := by
    rw [bodyStep_wait]
    refine @Akin.out env _ _ _ _
      (.after ⟨fun s t h => ?_⟩ fun _ => ⟨matching_guarded (is_waitAction w).out⟩)
    exact .same ⟨h.frame, h.code, View.Shared.count h.session, h.allowed⟩

instance [Kind.Splices env (Matching env m V)] : Kind.Groups env (Matching env m V) where
  ofLineGroup := matching_lineGroup
  ofModifyCode := matching_modifyCode
  inherited := hwhole.inherited

end Steps

end TestMigration.Rendering
