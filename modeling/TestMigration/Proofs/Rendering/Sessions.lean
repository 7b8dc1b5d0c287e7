import TestMigration.Proofs.Rendering.UnitKinds
/-!
# What a session can come to

A session is changed in a few ways only: a fragment is added to the trace, a remark is made, a unit
of the model is noted for import (`Noting`), and a wait is counted and then gets two fragments, or
none (`Stable`). So a property of sessions that these steps keep is kept by all that writes a file
(`Upholding`), whatever way it ends. And whatever refuses a unit on the way does so in its name
(`Stop.Own`).

Imported units are found while rendering looks for the target of a call or the class of a page
object, so it depends on the environment that they are units of the model.
-/

namespace TestMigration.Rendering

open TestMigration.Action Text Profile

def Stop.Own (env : Env) : Stop → Prop
  | .refused r => r.unitName = env.unit.unitName
  | .untranslatable _ | .halted _ => True

/-- A property that is kept by each change of a session without waits. -/
class Noting (env : Env) (I : Session → Prop) : Prop where
  trace {s : Session} {e : TraceEntry} (he : e.kind ≠ .wait) :
    I s → I { s with trace := s.trace ++ [e] }
  remark {s : Session} (notes : List String) (diagnostics : List Diagnostic) :
    I s → I { s with notes, diagnostics }
  ofClass {s : Session} {u : SourceUnit} (hu : u ∈ env.model.units) :
    I s → I { s with classImports := Table.put u.unitName u s.classImports }
  ofModule {s : Session} {u : SourceUnit} (hu : u ∈ env.model.units) :
    I s → I { s with moduleImports := Table.put u.unitName u s.moduleImports }
  ofFunctions {s : Session} {u : SourceUnit} (hu : u ∈ env.model.units) (names : List String) :
    I s → I { s with functionImports := Table.put u.unitName (u, names) s.functionImports }

def waitPair (p : Provenance) (fragment body : String) : List TraceEntry :=
  [{ kind := .wait, provenance := p, fragment, body },
    { kind := .action, provenance := p, fragment, body }]

/-- A property that is also kept if a wait is counted, with or without fragments. -/
class Stable (env : Env) (I : Session → Prop) : Prop extends Noting env I where
  wait {s : Session} : I s → I { s with waits := s.waits + 1 }
  waited {s : Session} (p : Provenance) (fragment body : String) :
    I s → I { s with waits := s.waits + 1, trace := s.trace ++ waitPair p fragment body }

/-- A session with the property but for one counted wait that may still get its fragments. -/
def Due (I : Session → Prop) (s : Session) : Prop := ∃ n, s.waits = n + 1 ∧ I { s with waits := n }

section Due

variable {env : Env} {I : Session → Prop} {s : Session}

instance [Noting env I] : Noting env (Due I) where
  trace he := fun ⟨n, hn, h⟩ => ⟨n, hn, Noting.trace env he h⟩
  remark notes diagnostics := fun ⟨n, hn, h⟩ => ⟨n, hn, Noting.remark env notes diagnostics h⟩
  ofClass hu := fun ⟨n, hn, h⟩ => ⟨n, hn, Noting.ofClass hu h⟩
  ofModule hu := fun ⟨n, hn, h⟩ => ⟨n, hn, Noting.ofModule hu h⟩
  ofFunctions hu names := fun ⟨n, hn, h⟩ => ⟨n, hn, Noting.ofFunctions hu names h⟩

theorem Due.settled (env : Env) [Stable env I] (h : Due I s) : I s := by
  obtain ⟨n, hn, hs⟩ := h
  have hwait := Stable.wait env hs
  rwa [← hn] at hwait

theorem Due.waited (env : Env) [Stable env I] (h : Due I s) (p : Provenance)
    (fragment body : String) :
    I { s with trace := s.trace ++ waitPair p fragment body } := by
  obtain ⟨n, hn, hs⟩ := h
  have hwaited := Stable.waited env p fragment body hs
  rwa [← hn] at hwaited

end Due

/-- A step that brings a session from one property to another, and refuses no other unit. -/
structure Brings {α : Type} (env : Env) (I J : Session → Prop) (x : Render α) : Prop where
  out (s : State) : I s.session → J (x.run env s).2.session
  own (s : State) {stop : Stop} : (x.run env s).1 = .error stop → stop.Own env

abbrev Upholding (env : Env) (I : Session → Prop) : Kind where
  Holds x _ := Brings env I I x

section Brings

variable {env : Env} {I J : Session → Prop} {α β : Type}
variable {x : Render α}

theorem Brings.of_run (h : Brings env I J x) {s s' : State} {r : Except Stop α}
    (hrun : x.run env s = (r, s')) (hs : I s.session) : J s'.session := by
  have := h.out s hs
  rwa [hrun] at this

theorem Brings.mono (h : Brings env I I x) (hle : ∀ s, I s → J s) : Brings env I J x :=
  ⟨fun s hs => hle _ (h.out s hs), h.own⟩

/-- Only results that the first step can have matter. -/
theorem Brings.after {f : α → Render β} (hx : Brings env I I x) (hle : ∀ s, I s → J s)
    (hf : ∀ {a s s'}, x.run env s = (.ok a, s') → Brings env I J (f a)) :
    Brings env I J (x >>= f) := by
  refine ⟨fun s hs => ?_, fun s stop hstop => ?_⟩
  · rcases hrun : x.run env s with ⟨stop | a, s'⟩
    · rw [run_bind_error hrun]
      exact hle _ (hx.of_run hrun hs)
    · rw [run_bind_ok hrun]
      exact (hf hrun).out s' (hx.of_run hrun hs)
  · rcases hrun : x.run env s with ⟨_ | a, s'⟩
    · rw [run_bind_error hrun] at hstop
      cases hstop
      exact hx.own s (congrArg Prod.fst hrun)
    · rw [run_bind_ok hrun] at hstop
      exact (hf hrun).own s' hstop

theorem Brings.handle {f : Stop → Render α} (hx : Brings env I J x)
    (hf : ∀ stop, stop.Own env → Brings env J J (f stop)) : Brings env I J (tryCatch x f) := by
  refine ⟨fun s hs => ?_, fun s stop hstop => ?_⟩
  · rw [run_tryCatch]
    rcases hrun : x.run env s with ⟨stop | a, s'⟩
    · exact (hf stop (hx.own s (congrArg Prod.fst hrun))).out s' (hx.of_run hrun hs)
    · exact hx.of_run hrun hs
  · rw [run_tryCatch] at hstop
    rcases hrun : x.run env s with ⟨stop' | a, s'⟩
    · rw [hrun] at hstop
      exact (hf stop' (hx.own s (congrArg Prod.fst hrun))).own s' hstop
    · rw [hrun] at hstop
      cases hstop

theorem Brings.of_same
    (h : ∀ s, ∃ a s', x.run env s = (.ok a, s') ∧ s'.session = s.session) : Brings env I I x := by
  refine ⟨fun s hs => ?_, fun s stop hstop => ?_⟩
  · obtain ⟨a, s', hrun, hsession⟩ := h s
    rw [hrun]
    exact hsession ▸ hs
  · obtain ⟨a, s', hrun, -⟩ := h s
    rw [hrun] at hstop
    cases hstop

theorem Brings.within {y : Render β} (hx : Brings env I J x)
    (h : ∀ s, ∃ s₀, s₀.session = s.session ∧ (y.run env s).2.session = (x.run env s₀).2.session ∧
      ∀ {stop}, (y.run env s).1 = .error stop → (x.run env s₀).1 = .error stop) :
    Brings env I J y := by
  refine ⟨fun s hs => ?_, fun s stop hstop => ?_⟩
  · obtain ⟨s₀, hstart, hend, -⟩ := h s
    rw [hend]
    exact hx.out s₀ (hstart ▸ hs)
  · obtain ⟨s₀, -, -, hsame⟩ := h s
    exact hx.own s₀ (hsame hstop)

theorem brings_throw {stop : Stop} (h : stop.Own env) : Brings env I I (throw stop : Render α) :=
  ⟨fun _ hs => hs, fun _ _ hstop => Except.error.inj hstop ▸ h⟩

/-- Looking at the environment, the state or the frame changes nothing. -/
theorem Brings.ask {f : Env → Render α} (h : Brings env I J (f env)) :
    Brings env I J (read >>= f) :=
  ⟨h.out, h.own⟩

theorem Brings.observe {f : State → Render α} (h : ∀ s, Brings env I J (f s)) :
    Brings env I J (get >>= f) := ⟨fun s => (h s).out s, fun s => (h s).own s⟩

theorem Brings.look {f : Frame → Render α} (h : ∀ o, Brings env I J (f o)) :
    Brings env I J (frame >>= f) := ⟨fun s => (h s.frame).out s, fun s => (h s.frame).own s⟩

end Brings

/-! ### Changes of the session -/

section Changes

variable {env : Env} {I : Session → Prop}
variable {u : SourceUnit}

theorem brings_modifySession {f : Session → Session} (h : ∀ s, I s → I (f s)) :
    Brings env I I (modifySession f) :=
  ⟨fun s => h s.session, fun _ _ hstop => by cases hstop⟩

variable [Noting env I]

theorem brings_trace {kind : TraceKind} (h : kind ≠ .wait) (p : Provenance) (fragment : String)
    (l : Option Locator) (scope : String) : Brings env I I (trace kind p fragment l scope) :=
  .look fun _ => brings_modifySession fun _ => Noting.trace env h

theorem brings_note (key message : String) (position : Option Position) :
    Brings env I I (note key message position) := by
  refine .ask (brings_modifySession fun s hs => ?_)
  split
  · exact hs
  · exact Noting.remark env _ _ hs

theorem brings_needClass (hu : u ∈ env.model.units) : Brings env I I (needClass u) := by
  refine .ask ?_
  split
  · exact brings_modifySession fun _ => Noting.ofClass hu
  · exact .of_same fun _ => ⟨_, _, rfl, rfl⟩

theorem brings_needModule (hu : u ∈ env.model.units) : Brings env I I (needModule u) :=
  Brings.after (brings_modifySession fun _ => Noting.ofModule hu) (fun _ h => h) fun _ =>
    .of_same fun _ => ⟨_, _, rfl, rfl⟩

end Changes

/-! ### Values and single actions -/

section Abilities

variable {env : Env} {I : Session → Prop}

instance : Kind.Single (Upholding env I) where
  ofRead := .of_same fun _ => ⟨_, _, rfl, rfl⟩

instance : Kind.Halts env (Upholding env I) where
  ofPure _ := .of_same fun _ => ⟨_, _, rfl, rfl⟩
  ofAsk h := .ask (h _ (.refl _))
  ofFrame h := .look fun _ => h _ trivial
  ofBind hx hf := Brings.after hx (fun _ h => h) hf
  ofRefusal _ _ := .ask (brings_throw rfl)
  ofAnyHalt _ := brings_throw trivial

instance : Kind.Lays env (Upholding env I) where
  ofLine _ := .of_same fun _ => ⟨_, _, rfl, rfl⟩
  ofComment _ := .of_same fun _ => ⟨_, _, rfl, rfl⟩
  ofStatements := .of_same fun _ => ⟨_, _, rfl, rfl⟩
  ofLineCount := .of_same fun _ => ⟨_, _, rfl, rfl⟩
  ofBlank _ := .of_same fun _ => ⟨_, _, rfl, rfl⟩
  ofIndented hx := Brings.within hx fun s => ⟨{ s with code := s.code.deeper }, rfl, by
    rw [run_indented]
    exact ⟨rfl, fun h => h⟩⟩

instance : Kind.Binds env (Upholding env I) where
  ofDeclare _ := .of_same fun _ => ⟨_, _, rfl, rfl⟩
  ofElement _ _ := .of_same fun _ => ⟨_, _, rfl, rfl⟩

instance [Noting env I] : Kind.Values env (Upholding env I) where
  ofVerbatim _ := brings_throw trivial
  ofNote := brings_note
  ofClass hu := brings_needClass hu.mem
  ofModule hu := brings_needModule hu.mem
  ofFunction hu _ := brings_modifySession fun _ => Noting.ofFunctions hu.mem _
  ofLocator := brings_trace (by simp)

instance [Noting env I] : Kind.Acts env (Upholding env I) where
  ofAction := brings_trace (by simp)

theorem Brings.guarded {J : Session → Prop} {x : Render Unit} (h : Brings env I J x) :
    Brings env I J (guarded x) := by
  refine h.handle fun stop hown => ?_
  cases stop with
  | untranslatable text =>
    have huntranslated : Is env (Upholding env J) (untranslated text) := inferInstance
    exact huntranslated.out
  | refused r | halted h => exact brings_throw hown

end Abilities

/-! ### Bodies -/

section Bodies

variable {env : Env} {I : Session → Prop}

theorem brings_waitAction [Stable env I] (w : Wait) : Brings env (Due I) I (waitAction w) := by
  have hwrite : ∀ text, Brings env (Due I) I (do
      line text
      trace .wait w.provenance text
      trace .action w.provenance text) := by
    refine fun text => ⟨fun s hs => ?_, fun s stop hstop => by cases hstop⟩
    have hwaited := hs.waited env w.provenance text s.frame.body
    show I { s.session with trace := s.session.trace ++ [_] ++ [_] }
    rwa [List.append_assoc]
  have hsettled : ∀ s, Due I s → I s := fun s => Due.settled env
  have hafter : ∀ {α : Type} {x : Render α} {f : α → Render Unit}, Is env
    (Upholding env (Due I)) x →
      (∀ a, Brings env (Due I) I (f a)) → Brings env (Due I) I (x >>= f) := fun hx hf =>
    hx.out.after hsettled fun {a _ _} _ => hf a
  refine hafter inferInstance fun p => ?_
  split
  · have hrefused : Is env (Upholding env (Due I))
        (refuseAt w.provenance (.noCondition p.name w.condition) : Render Unit) := inferInstance
    exact hrefused.out.mono hsettled
  · refine hafter inferInstance fun args => hafter inferInstance fun millis => ?_
    cases w.target with
    | none => exact hafter inferInstance fun target => hafter inferInstance fun f => hwrite _
    | some =>
      exact hafter inferInstance fun e => hafter inferInstance fun target =>
        hafter inferInstance fun f => hwrite _

instance [Stable env I] : Kind.Writes env (Upholding env I) where
  ofModifyFrame _ := .of_same fun _ => ⟨_, _, rfl, rfl⟩
  ofInFrame f _ _ _ hx := Brings.within hx fun s => ⟨{ s with frame := f }, rfl, by
    rw [run_inFrame]
    exact ⟨rfl, fun h => h⟩⟩
  ofGuarded hx := hx.guarded
  ofWaitStep splice w := by
    have hwait : Brings env (Due I) I (guarded (waitAction w)) := (brings_waitAction w).guarded
    rw [bodyStep_wait]
    exact ⟨fun s hs => hwait.out _ ⟨s.session.waits, rfl, hs⟩, fun s _ hstop => hwait.own _ hstop⟩

end Bodies

instance {env : Env} {I : Session → Prop} [Stable env I] :
    Kind.Groups env (Upholding env I) where
  ofLineGroup {_ x _} level hx := Brings.within hx fun s => ⟨s.anew env level, rfl, by
    rw [run_lineGroup]
    rcases x.run env (s.anew env level) with ⟨_ | a, _⟩
    · exact ⟨rfl, fun h => by cases h; rfl⟩
    · exact ⟨rfl, nofun⟩⟩
  ofModifyCode _ := .of_same fun _ => ⟨_, _, rfl, rfl⟩
  inherited _ _ _ := trivial

end TestMigration.Rendering
