import TestMigration.Proofs.Linking.Literals
import TestMigration.Proofs.Rendering.BodyFragments
/-!
# What is in the way of a value

A value can fail to be written for two reasons that have to do with calls kept as text. A part of it
is known by its text alone, which turns its statement into a comment; or a part is an element whose
lookup has become a comment, and then the unit is refused. Which of the two comes first decides:
`Scope.valueObstacle?` goes through the parts of a value in the order in which they are written.

To see that there are no other reasons, the value is compared with the one in which a text stands
for the calls. If the second can be written, the first ends exactly as its first obstacle says
(`follows_valueText`). The comparison runs along two renderings at once (`Follows`): their frames
differ only in what has been bound, and what does not depend on that can fail only on both sides.
-/

namespace TestMigration.Rendering

open TestMigration.Action Linking Text Profile

/-- What can be in the way of a value. -/
inductive Obstacle where
  | text
  | missing
  deriving DecidableEq, Repr

/-! ### The first obstacle -/

namespace Scope

/-- The obstacle of an element, where `field` gives those of fields. -/
def elementObstacle? (env : Env) (σ : Scope) (field : LocatorField → Option Obstacle)
    (ref : ElementRef) : Option Obstacle :=
  if ref.id ∈ σ.bound then none
  else if ref.origin = .field then
    if σ.mode = .page then none
    else match σ.field? env ref.name with
      | some f => field f
      | none => some .missing
  else if ref.origin = .param then none
  else some .missing

mutual

def valueObstacle? (env : Env) (σ : Scope) (field : LocatorField → Option Obstacle) :
    Value → Option Obstacle
  | .element ref => elementObstacle? env σ field ref
  | .elementQuery ref _ none => elementObstacle? env σ field ref
  | .elementQuery ref _ (some arg) =>
    (valueObstacle? env σ field arg).or (elementObstacle? env σ field ref)
  | .not operand => valueObstacle? env σ field operand
  | .binary _ left right => (valueObstacle? env σ field left).or (valueObstacle? env σ field right)
  | .contains haystack needle =>
    (valueObstacle? env σ field haystack).or (valueObstacle? env σ field needle)
  | .call (.mk _ _ _ args _ _ _) => valuesObstacle? env σ field args
  | .script _ args => valuesObstacle? env σ field args
  | .construct _ args => valuesObstacle? env σ field args
  | .verbatim _ => some .text
  | .literal _ | .variable _ | .driver | .pageQuery _ => none

def valuesObstacle? (env : Env) (σ : Scope) (field : LocatorField → Option Obstacle) :
    List Value → Option Obstacle
  | [] => none
  | v :: rest => (valueObstacle? env σ field v).or (valuesObstacle? env σ field rest)

end

/-- The obstacle of a locator. A selector without a place for the value does not need it. -/
def locatorObstacle? (env : Env) (σ : Scope) (field : LocatorField → Option Obstacle)
    (l : Locator) : Option Obstacle :=
  match Table.get? l.strategy env.profile.locators.strategies with
  | none => none
  | some template =>
    match template.shape with
    | .expression _ => valueObstacle? env σ field l.value
    | .selector s => if occursIn "$value" s then valueObstacle? env σ field l.value else none

/-- The obstacle of a field's element, through at most so many other fields. -/
def fieldObstacle? (env : Env) (σ : Scope) : Nat → LocatorField → Option Obstacle
  | 0, _ => none
  | n + 1, f => locatorObstacle? env σ (fieldObstacle? env σ n) f.locator

def obstacle? (env : Env) (σ : Scope) (v : Value) : Option Obstacle :=
  valueObstacle? env σ (fieldObstacle? env σ (σ.depth env)) v

def obstacleAmong? (env : Env) (σ : Scope) (vs : List Value) : Option Obstacle :=
  valuesObstacle? env σ (fieldObstacle? env σ (σ.depth env)) vs

def obstacleTo? (env : Env) (σ : Scope) (ref : ElementRef) : Option Obstacle :=
  elementObstacle? env σ (fieldObstacle? env σ (σ.depth env)) ref

def obstacleOf? (env : Env) (σ : Scope) (l : Locator) : Option Obstacle :=
  locatorObstacle? env σ (fieldObstacle? env σ (σ.depth env)) l

end Scope

/-! ### Two scopes -/

def fieldId? : Value → Option String
  | .element ref | .elementQuery ref _ _ => if ref.origin = .field then some ref.id else none
  | _ => none

/-- None of some elements is that of a field in parts of values. -/
def Apart (ids : List String) (parts : List Value) : Prop :=
  ∀ part ∈ parts, ∀ id ∈ fieldId? part, id ∉ ids

section Apart

variable {ids : List String} {part : Value} {parts parts' : List Value}

theorem apart_cons :
    Apart ids (part :: parts) ↔ (∀ id ∈ fieldId? part, id ∉ ids) ∧ Apart ids parts := by
  simp [Apart]

theorem apart_append : Apart ids (parts ++ parts') ↔ Apart ids parts ∧ Apart ids parts' := by
  simp only [Apart, List.mem_append, or_imp, forall_and]

end Apart

def Literal.Writable (l : Literal) : Prop := (Literal.showsValue l && !l.value.isWritable) = false

/-- Two scopes for one place, of which the second may have bound fewer elements. The first has bound
elements with the given names, which are those of no field. -/
structure Twin (env : Env) (ids : List String) (σ σ' : Scope) : Prop where
  unitName : σ'.unit.unitName = σ.unit.unitName
  package : σ'.unit.package = σ.unit.package
  locatorFields : σ'.unit.locatorFields = σ.unit.locatorFields
  writable : ∀ c ∈ σ'.unit.constants, Literal.Writable c.value
  mode : σ'.mode = σ.mode
  bound : ∀ id ∈ σ'.bound, id ∈ σ.bound
  known : ∀ id ∈ σ.bound, id ∈ ids
  apart : ∀ name f, σ.field? env name = some f → Apart ids f.locator.value.parts

section Twin

variable {env : Env} {ids : List String} {σ σ' : Scope}

theorem Twin.field?_eq (h : Twin env ids σ σ') (name : String) :
    σ'.field? env name = σ.field? env name := by
  unfold Scope.field?
  rw [h.unitName]
  cases env.model.superclassChain σ.unit.unitName with
  | ok => simp [List.findSome?_cons, h.locatorFields]
  | error => rfl

theorem Twin.depth_eq (h : Twin env ids σ σ') : σ'.depth env = σ.depth env := by
  simp [Scope.depth, h.locatorFields]

end Twin

/-- The same setting for another unit. -/
abbrev Env.on (env : Env) (u : SourceUnit) : Env := { env with unit := u }

/-! ### Following a run -/

/-- How a step has ended: with a result, at an obstacle, or otherwise. -/
def verdict {α : Type} : Except Stop α → Option (Option Obstacle)
  | .ok _ => some none
  | .error (.untranslatable _) => some (some .text)
  | .error (.refused _) => some (some .missing)
  | .error (.halted _) => none

section Verdict

variable {α β : Type} {env : Env} {s : State} {o o' : Option Obstacle}
variable {x : Render α}

theorem exists_of_verdict_none (h : verdict (x.run env s).1 = some none) :
    ∃ a s', x.run env s = (.ok a, s') := by
  rcases hrun : x.run env s with ⟨stop | a, s'⟩
  · rw [hrun] at h
    cases stop <;> cases h
  · exact ⟨a, s', rfl⟩

theorem verdict_bind {f : α → Render β} (h : verdict (x.run env s).1 = some o)
    (hf : ∀ a s', x.run env s = (.ok a, s') → verdict ((f a).run env s').1 = some o') :
    verdict ((x >>= f).run env s).1 = some (o.or o') := by
  rcases hrun : x.run env s with ⟨stop | a, s'⟩
  · rw [hrun] at h
    rw [run_bind_error hrun]
    cases stop <;> cases h <;> rfl
  · rw [hrun] at h
    cases h
    rw [run_bind_ok hrun]
    exact hf a s' hrun

end Verdict

/-- A step `y` follows a step `x` of another rendering: wherever `x` gives a result, `y` ends as its
first obstacle says, and where a value of `x` has no target form, `y` has an obstacle. -/
structure Follows (e e' : Env) (σ σ' : Scope) (o : Option Obstacle) {α β : Type} (x : Render α)
    (y : Render β) : Prop where
  ok {s s₁ t : State} {a : α} : σ.Fits s.frame → σ'.Fits t.frame → x.run e s = (.ok a, s₁) →
    verdict (y.run e' t).1 = some o
  untranslatable {s s₁ t : State} {text : String} : σ.Fits s.frame → σ'.Fits t.frame →
    x.run e s = (.error (.untranslatable text), s₁) → o ≠ none ∧ verdict (y.run e' t).1 = some o

section Follows

variable {e e' : Env} {σ σ' : Scope} {o o' : Option Obstacle} {α β α' β' : Type}
variable {x : Render α} {y : Render α'} {f : α → Render β}

/-- A step in which nothing lacks a target form has no obstacle with the other one. -/
theorem Follows.of_ok [h : Keeps Translated x]
    (hy : ∀ {s s₁ t : State} {a : α}, σ.Fits s.frame → σ'.Fits t.frame → x.run e s = (.ok a, s₁) →
      ∃ b t₁, y.run e' t = (.ok b, t₁)) : Follows e e' σ σ' none x y where
  ok hfits hfits' hrun := by
    obtain ⟨b, t₁, hyrun⟩ := hy hfits hfits' hrun
    rw [hyrun]
    rfl
  untranslatable _ _ hrun := absurd rfl (h.of_run hrun _)

theorem Follows.of_completes (x : Render α) (y : Render α') [Keeps Translated x]
    [Keeps Completes y] : Follows e e' σ σ' none x y :=
  Follows.of_ok fun _ _ _ => exists_of_completes y e' _

theorem Follows.bind {g : α' → Render β'}
    [hlight : Keeps Light x] [hlight' : Keeps Light y] (hx : Follows e e' σ σ' o x y)
    (hf : ∀ a b, Follows e e' σ σ' o' (f a) (g b)) :
    Follows e e' σ σ' (o.or o') (x >>= f) (y >>= g) where
  ok hfits hfits' hrun := by
    obtain ⟨a, s₁, hxrun, hfrun⟩ := exists_of_run_bind hrun
    refine verdict_bind (hx.ok hfits hfits' hxrun) fun b t₁ hyrun => ?_
    exact (hf a b).ok ((hlight.of_run hxrun).fits hfits) ((hlight'.of_run hyrun).fits hfits') hfrun
  untranslatable {s s₂ t text} hfits hfits' hrun := by
    rcases hxrun : x.run e s with ⟨_ | a, s₁⟩
    · rw [run_bind_error hxrun] at hrun
      cases hrun
      obtain ⟨hsome, hverdict⟩ := hx.untranslatable hfits hfits' hxrun
      obtain ⟨obstacle, rfl⟩ := Option.ne_none_iff_exists'.mp hsome
      refine ⟨by simp, verdict_bind hverdict fun b t₁ hyrun => ?_⟩
      rw [hyrun] at hverdict
      cases hverdict
    · rw [run_bind_ok hxrun] at hrun
      have hrest : ∀ b t₁, y.run e' t = (.ok b, t₁) →
          o' ≠ none ∧ verdict ((g b).run e' t₁).1 = some o' := fun b t₁ hyrun =>
        (hf a b).untranslatable ((hlight.of_run hxrun).fits hfits)
          ((hlight'.of_run hyrun).fits hfits') hrun
      have hverdict := hx.ok hfits hfits' hxrun
      refine ⟨?_, verdict_bind hverdict fun b t₁ hyrun => (hrest b t₁ hyrun).2⟩
      cases o with
      | some obstacle => simp
      | none =>
        obtain ⟨b, t₁, hyrun⟩ := exists_of_verdict_none hverdict
        simpa using (hrest b t₁ hyrun).1

theorem Follows.after {g : α' → Render β'}
    [Keeps Light x] [Keeps Translated x] [Keeps Light y] [Keeps Completes y]
    (hf : ∀ a b, Follows e e' σ σ' o (f a) (g b)) : Follows e e' σ σ' o (x >>= f) (y >>= g) :=
  (Follows.of_completes x y).bind hf

/-- What comes behind a step does not matter if it does not change how the other ends. -/
theorem Follows.extend {g : α' → Render β'} (hx : Follows e e' σ σ' o x y)
    [hf : ∀ a, Keeps Translated (f a)] (hy : ∀ {t : State}, verdict (y.run e' t).1 = some o →
      verdict ((y >>= g).run e' t).1 = some o) : Follows e e' σ σ' o (x >>= f) (y >>= g) where
  ok hfits hfits' hrun := by
    obtain ⟨a, s₁, hxrun, -⟩ := exists_of_run_bind hrun
    exact hy (hx.ok hfits hfits' hxrun)
  untranslatable {s _ t text} hfits hfits' hrun := by
    rcases hxrun : x.run e s with ⟨_ | a, s₁⟩
    · rw [run_bind_error hxrun] at hrun
      cases hrun
      exact (hx.untranslatable hfits hfits' hxrun).imp_right hy
    · rw [run_bind_ok hxrun] at hrun
      exact absurd rfl ((hf a).of_run hrun text)

theorem Follows.before {g : α' → Render β'}
    (hx : Follows e e' σ σ' o x y) [hf : ∀ a, Keeps Translated (f a)]
    [∀ b, Keeps Completes (g b)] : Follows e e' σ σ' o (x >>= f) (y >>= g) := by
  refine hx.extend fun {t} hverdict => ?_
  rw [← Option.or_none (o := o)]
  refine verdict_bind hverdict fun b t₁ _ => ?_
  obtain ⟨c, _, hrun⟩ := exists_of_completes (g b) e' t₁
  rw [hrun]
  rfl

/-- Steps in the current frame need only be compared in frames that fit. -/
theorem Follows.inFittingFrames {k : Frame → Render α} {k' : Frame → Render α'}
    (h : ∀ f f', σ.Fits f → σ'.Fits f' → Follows e e' σ σ' o (k f) (k' f')) :
    Follows e e' σ σ' o (frame >>= k) (frame >>= k') where
  ok {s _ t _} hfits hfits' hrun := (h s.frame t.frame hfits hfits').ok hfits hfits' hrun
  untranslatable {s _ t _} hfits hfits' hrun :=
    (h s.frame t.frame hfits hfits').untranslatable hfits hfits' hrun

theorem Follows.congr {x' : Render α} {y' : Render α'} (h : Follows e e' σ σ' o x y)
    (hx : ∀ s, σ.Fits s.frame → x'.run e s = x.run e s)
    (hy : ∀ t, σ'.Fits t.frame → y'.run e' t = y.run e' t) : Follows e e' σ σ' o x' y' where
  ok hfits hfits' hrun := hy _ hfits' ▸ h.ok hfits hfits' (hx _ hfits ▸ hrun)
  untranslatable hfits hfits' hrun :=
    hy _ hfits' ▸ h.untranslatable hfits hfits' (hx _ hfits ▸ hrun)

theorem Follows.withProfile {k : Profile → Render α} {k' : Profile → Render α'}
    (h : Follows e e' σ σ' o (k e.profile) (k' e'.profile)) :
    Follows e e' σ σ' o (profile >>= k) (profile >>= k') :=
  h.congr (fun _ _ => rfl) fun _ _ => rfl

/-- A step that is known to be refused does not matter. -/
theorem Follows.of_refused [h : Keeps Translated x]
    (hx : ∀ s a s₁, x.run e s ≠ (.ok a, s₁) := by intro _ _ _ h; cases h) :
    Follows e e' σ σ' o x y where
  ok _ _ hrun := absurd hrun (hx _ _ _)
  untranslatable _ _ hrun := absurd rfl (h.of_run hrun _)

end Follows

/-! ### Values without parts -/

theorem Literal.Writable.completes {l : Literal} (h : Literal.Writable l) :
    Keeps Completes (literal l) := by
  unfold literal
  rw [h]
  exact (inferInstance : Keeps Completes (phrases >>= fun p => pure (Literal.text p l)))

section Values

variable {e : Env} {u : SourceUnit} {ids : List String} {σ σ' : Scope}
variable {o : Option Obstacle} {α β : Type} {x : Render α} {y : Render β} {c c' : Call}
  {s s₁ : State}
variable {ref : ElementRef} {v : Value}

theorem follows_literal (l : Literal) : Follows e (e.on u) σ σ' none (literal l) (literal l) := by
  cases h : Literal.showsValue l && !l.value.isWritable with
  | false =>
    have := Literal.Writable.completes h
    exact .of_completes _ _
  | true =>
    refine .of_refused fun s a s₁ hrun => ?_
    unfold literal at hrun
    rw [h] at hrun
    cases hrun

theorem follows_variableText (h : Twin e ids σ σ') (name : String) :
    Follows e (e.on u) σ σ' none (variableText name) (variableText name) := by
  refine .inFittingFrames fun f f' hfits hfits' => Follows.after fun p p' =>
    Follows.after fun target target' => ?_
  have hmode : f'.mode = f.mode := by rw [hfits.mode, hfits'.mode, h.mode]
  rw [hmode]
  cases hthis : name == "this" with
  | true =>
    by_cases hpage : f.mode = .page
    · simp only [hpage, if_true]
      exact .of_completes _ _
    · simp only [hpage]
      exact @Follows.of_refused _ _ _ _ _ _ _ _ _ (Keeps.andThen inferInstance fun _ => by
        repeat' first
          | infer_instance
          | split) fun s a s₁ hrun => by cases hrun
  | false =>
    simp only [Bool.false_eq_true, if_false]
    refine @Follows.of_completes _ _ _ _ _ _ _ _ ?_ ?_
    · repeat' first
        | infer_instance
        | split
    · split
      · infer_instance
      · split
        · infer_instance
        · split
          · rename_i constant hconstant
            rw [hfits'.unit] at hconstant
            have := (h.writable constant (List.mem_of_find?_eq_some hconstant)).completes
            infer_instance
          · infer_instance

theorem follows_queryTemplate (query : String) :
    Follows e (e.on u) σ σ' none (queryTemplate query) (queryTemplate query) := by
  refine .withProfile ?_
  cases Table.get? query e.profile.queries with
  | some => exact .of_completes _ _
  | none => exact .of_refused

theorem follows_pageQuery (query : String) :
    Follows e (e.on u) σ σ' none (pageQuery query) (pageQuery query) := by
  refine .withProfile ?_
  cases Table.get? query e.profile.pageQueries with
  | some => exact .of_completes _ _
  | none => exact .of_refused

/-! ### Elements, calls and objects -/

/-- Steps that depend on a field's locator need only be compared for the field that both scopes
know. -/
theorem Follows.withField (h : Twin e ids σ σ') {name : String}
    {k : Option LocatorField → Render α} {k' : Option LocatorField → Render β}
    (hk : Follows e (e.on u) σ σ' o (k (σ.field? e name)) (k' (σ.field? e name))) :
    Follows e (e.on u) σ σ' o (fieldLocator name σ.unit >>= k)
      (fieldLocator name σ'.unit >>= k') := by
  cases hchain : e.model.superclassChain σ.unit.unitName with
  | ok =>
    have hrun' : ∀ t, (fieldLocator name σ'.unit).run (e.on u) t = (.ok (σ.field? e name), t) := by
      intro t
      rw [← h.field?_eq]
      exact run_fieldLocator (by rwa [h.unitName]) name t
    exact hk.congr (fun s _ => run_bind_ok (run_fieldLocator hchain name s)) fun t _ =>
      run_bind_ok (hrun' t)
  | error =>
    refine ⟨fun {s _ _ _} _ _ hx => ?_, fun {s _ _ _} _ _ hx => ?_⟩ <;>
      rw [run_bind_error (run_fieldLocator_halted hchain name s)] at hx <;> cases hx

theorem Follows.of_stop {o : Obstacle}
    [h : Keeps Translated x] (hy : ∀ t, verdict (y.run (e.on u) t).1 = some (some o)) :
    Follows e (e.on u) σ σ' (some o) x y where
  ok _ _ _ := hy _
  untranslatable _ _ hrun := absurd rfl (h.of_run hrun _)

theorem run_resolveCall {key : MethodKey} (h : e.model.resolve? c = some key)
    (position : Option Position) (s : State) : (resolveCall c position).run e s = (.ok key, s) := by
  unfold resolveCall
  rw [run_bind_ok run_read, h]
  rfl

theorem run_callTarget (hid : c'.id = c.id) {r : SourceUnit × Method}
    (hrun : (callTarget c).run e s = (.ok r, s₁)) (t : State) :
    (callTarget c').run (e.on u) t = (.ok r, t) := by
  obtain ⟨hinline, key, hkey, hunit, hmethod⟩ := exists_of_run_callTarget hrun
  have hkey' : e.model.resolve? c' = some key := by rw [← hkey, Model.resolve?, hid, Model.resolve?]
  unfold callTarget
  rw [run_bind_ok run_read, if_neg hinline]
  rw [run_bind_ok (run_resolveCall (e := e.on u) hkey' none t), hunit, hmethod]
  rfl

theorem Follows.ite {p : Prop} [Decidable p] {x' : Render α}
    {y' : Render β} (hx : Follows e (e.on u) σ σ' o x y) (hx' : Follows e (e.on u) σ σ' o x' y') :
    Follows e (e.on u) σ σ' o (if p then x else x') (if p then y else y') := by
  split
  · exact hx
  · exact hx'

/-- Steps that depend on where a call leads need only be compared for one target. -/
theorem Follows.withTarget (hid : c'.id = c.id)
    {k : SourceUnit × Method → Render α} {k' : SourceUnit × Method → Render β}
    (hk : ∀ r, Follows e (e.on u) σ σ' o (k r) (k' r)) :
    Follows e (e.on u) σ σ' o (callTarget c >>= k) (callTarget c' >>= k') where
  ok {s s₁ t a} hfits hfits' hrun := by
    obtain ⟨r, s₂, htarget, hrun⟩ := exists_of_run_bind hrun
    rw [run_bind_ok (run_callTarget hid htarget t)]
    exact (hk r).ok ((Keeps.of_run (R := Plain) htarget).frame ▸ hfits) hfits' hrun
  untranslatable {s s₁ t text} hfits hfits' hrun := by
    rcases htarget : (callTarget c).run e s with ⟨_ | r, s₂⟩
    · rw [run_bind_error htarget] at hrun
      cases hrun
      exact absurd rfl ((Keeps.of_run (R := Plain) htarget).translated text)
    · rw [run_bind_ok htarget] at hrun
      rw [run_bind_ok (run_callTarget hid htarget t)]
      exact (hk r).untranslatable ((Keeps.of_run (R := Plain) htarget).frame ▸ hfits) hfits' hrun

theorem follows_callReceiver (h : Twin e ids σ σ') (hstyle : c'.style = c.style)
    (target : SourceUnit) (method : Method) : Follows e (e.on u) σ σ' none
      (callReceiver c target method) (callReceiver c' target method) := by
  unfold callReceiver
  rw [hstyle]
  by_cases hstatic : method.static = true
  · simp only [hstatic, if_true]
    exact .of_completes _ _
  · simp only [hstatic]
    by_cases hself : c.style = .self
    · simp only [hself]
      refine .inFittingFrames fun f f' hfits hfits' => ?_
      have hmode : f'.mode = f.mode := by rw [hfits.mode, hfits'.mode, h.mode]
      rw [hmode]
      by_cases hpage : f.mode = .page
      · simp only [hpage, if_true]
        exact .of_completes _ _
      · simp only [hpage]
        exact .of_refused
    · simp only [hself, if_false]
      exact .of_completes _ _

theorem follows_callText (h : Twin e ids σ σ') (hstyle : c'.style = c.style)
    (target : SourceUnit) (method : Method) (args args' : List String) :
    Follows e (e.on u) σ σ' none (callText c target method args)
      (callText c' target method args') := by
  refine .after fun name name' => ?_
  by_cases hkind : target.kind = .pageObject
  · simp only [hkind]
    exact .before (follows_callReceiver h hstyle target method)
  · simp only [hkind, if_false]
    exact .of_completes _ _

/-- Steps that depend on the page object of a type need only be compared for the one that both units
mean. -/
theorem Follows.withPageObject {typeName : String}
    {near near' : SourceUnit} (hnear : near'.package = near.package)
    {k : Option SourceUnit → Render α} {k' : Option SourceUnit → Render β}
    (hk : ∀ found, Follows e (e.on u) σ σ' o (k found) (k' found)) :
    Follows e (e.on u) σ σ' o (pageObjectFor typeName near >>= k)
      (pageObjectFor typeName near' >>= k') := by
  have hsame : unitForType e.model typeName near' = unitForType e.model typeName near := by
    unfold unitForType
    rw [hnear]
  have hrun' : ∀ t, (pageObjectFor typeName near').run (e.on u) t =
      (.ok ((unitForType e.model typeName near).filter (·.kind == .pageObject)), t) := by
    intro t
    rw [← hsame]
    rfl
  exact (hk _).congr (fun _ _ => run_bind_ok rfl) fun t _ => run_bind_ok (hrun' t)

theorem follows_constructed (h : Twin e ids σ σ') (typeName : String) :
    Follows e (e.on u) σ σ' none (constructed typeName) (constructed typeName) := by
  refine .inFittingFrames fun f f' hfits hfits' => ?_
  refine .withPageObject (by rw [hfits.unit, hfits'.unit, h.package]) fun found => ?_
  cases found with
  | some => exact .of_completes _ _
  | none => exact .of_refused

theorem completes_freeElement (h : ref.origin = .param) : Keeps Completes (freeElement ref) := by
  unfold freeElement
  rw [if_pos h]
  infer_instance

theorem verdict_freeElement (h : ref.origin ≠ .param) (env : Env) (s : State) :
    verdict ((freeElement ref).run env s).1 = some (some .missing) := by
  unfold freeElement
  rw [if_neg h]
  rfl

theorem follows_element (h : Twin e ids σ σ') {field : LocatorField → Render String}
    {judge : LocatorField → Option Obstacle} (hfield : ∀ f, Apart ids f.locator.value.parts →
      Follows e (e.on u) σ σ' (judge f) (field f) (field f))
    (href : ∀ id ∈ fieldId? (.element ref), id ∉ ids) :
    Follows e (e.on u) σ σ' (σ'.elementObstacle? (e.on u) judge ref) (element field ref)
      (element field ref) := by
  unfold element Scope.elementObstacle?
  refine .inFittingFrames fun f f' hfits hfits' => ?_
  cases hbound' : Table.get? ref.id f'.elements with
  | some =>
    have hmem : ref.id ∈ σ'.bound := (hfits'.bound _).mpr (by simp [hbound'])
    obtain ⟨_, hbound⟩ := Option.isSome_iff_exists.mp ((hfits.bound _).mp (h.bound _ hmem))
    rw [if_pos hmem, hbound]
    exact .of_completes _ _
  | none =>
    have hmem : ref.id ∉ σ'.bound := by simp [hfits'.bound, hbound']
    rw [if_neg hmem]
    by_cases horigin : ref.origin = .field
    · have hunbound : Table.get? ref.id f.elements = none := by
        have hnot : ref.id ∉ σ.bound := fun hmem =>
          href _ (by simp [fieldId?, horigin]) (h.known _ hmem)
        simpa [hfits.bound] using hnot
      have hmode : f'.mode = f.mode := by rw [hfits.mode, hfits'.mode, h.mode]
      simp only [horigin, hunbound, hmode, ← hfits'.mode]
      by_cases hpage : f.mode = .page
      · simp only [hpage, if_true]
        exact .of_completes _ _
      · simp only [hpage]
        rw [hfits.unit, hfits'.unit]
        refine .withField h ?_
        rw [show σ'.field? (e.on u) ref.name = σ.field? e ref.name from h.field?_eq ref.name]
        cases hfound : σ.field? e ref.name with
        | some found => exact hfield found (h.apart _ _ hfound)
        | none => exact .of_stop (verdict_freeElement (by simp [horigin]) _)
    · simp only [horigin, if_false]
      by_cases hparam : ref.origin = .param
      · have := completes_freeElement hparam
        simp only [hparam]
        exact @Follows.of_completes _ _ _ _ _ _ _ _ (by split <;> infer_instance) this
      · simp only [hparam]
        exact @Follows.of_stop _ _ _ _ _ _ _ _ _ (by split <;> infer_instance)
          (verdict_freeElement hparam _)

/-! ### The recursion -/

theorem scriptArgs_cons {field : LocatorField → Render String}
    (hv : ∀ ref, v ≠ .element ref) (rest : List Value) :
    scriptArgs field (v :: rest) = (do
      let text ← value field v
      return text :: (← scriptArgs field rest)) := by
  cases v with
  | element ref => exact absurd rfl (hv ref)
  | _ => simp only [scriptArgs]

/-- What stands in place of a value is an element only if it is one. -/
theorem ne_element {demoted : String → Bool} (text : String) (hv : ∀ ref, v ≠ .element ref)
    (ref : ElementRef) :
    literalValue demoted text v ≠ .element ref ∧ demoteValue demoted v ≠ .element ref := by
  cases v with
  | element ref => exact absurd rfl (hv ref)
  | call c =>
    cases c
    simp only [literalValue, demoteValue]
    split <;> exact ⟨nofun, nofun⟩
  | elementQuery _ _ arg => cases arg <;> simp [literalValue, demoteValue]
  | _ => simp [literalValue, demoteValue]

section Recursion

variable {field : LocatorField → Render String} {judge : LocatorField → Option Obstacle}
  {demoted : String → Bool} {text : String}
variable (h : Twin e ids σ σ') (hquiet : ∀ f, Keeps Quiet (field f))
  (hfield : ∀ f, Apart ids f.locator.value.parts →
    Follows e (e.on u) σ σ' (judge f) (field f) (field f))

include h hquiet hfield

mutual

theorem follows_value (v : Value) (hv : Apart ids (demoteValue demoted v).parts) :
    Follows e (e.on u) σ σ' (σ'.valueObstacle? (e.on u) judge (demoteValue demoted v))
      (value field (literalValue demoted text v)) (value field (demoteValue demoted v)) := by
  match v with
  | .literal l => exact follows_literal l
  | .variable name => exact follows_variableText h name
  | .driver =>
    simp only [literalValue, demoteValue, value, Scope.valueObstacle?]
    exact .of_completes _ _
  | .element ref =>
    simp only [literalValue, demoteValue, value, Scope.valueObstacle?, Value.parts,
      apart_cons] at hv ⊢
    exact follows_element h hfield hv.1
  | .elementQuery ref query none =>
    simp only [literalValue, demoteValue, value, Scope.valueObstacle?, Value.parts,
      apart_cons] at hv ⊢
    exact (follows_queryTemplate query).bind fun _ _ => (follows_element h hfield hv.1).before
  | .elementQuery ref query (some arg) =>
    simp only [literalValue, demoteValue, value, Scope.valueObstacle?, Value.parts,
      apart_cons] at hv ⊢
    have harg := follows_value arg hv.2
    refine (follows_queryTemplate query).bind fun _ _ => harg.bind fun _ _ => ?_
    exact (follows_element h hfield hv.1).before
  | .pageQuery query => exact follows_pageQuery query
  | .not operand =>
    simp only [literalValue, demoteValue, value, Scope.valueObstacle?, Value.parts,
      apart_cons] at hv ⊢
    exact (follows_value operand hv.2).before
  | .binary _ left right =>
    simp only [literalValue, demoteValue, value, Scope.valueObstacle?, Value.parts, apart_cons,
      apart_append] at hv ⊢
    have hright := follows_value right hv.2.2
    exact .after fun _ _ => (follows_value left hv.2.1).bind fun _ _ => hright.before
  | .contains haystack needle =>
    simp only [literalValue, demoteValue, value, Scope.valueObstacle?, Value.parts, apart_cons,
      apart_append] at hv ⊢
    have hneedle := follows_value needle hv.2.2
    exact (follows_value haystack hv.2.1).bind fun _ _ => hneedle.before
  | .call (.mk id _ _ args _ _ _) =>
    cases hdemoted : demoted id with
    | true =>
      -- The text can always be written, and the call kept as text never.
      simp only [literalValue, demoteValue, hdemoted, if_true, value, Scope.valueObstacle?]
      exact .of_stop fun _ => rfl
    | false =>
      simp only [literalValue, demoteValue, hdemoted, Bool.false_eq_true, if_false, value,
        Scope.valueObstacle?, Value.parts, apart_cons] at hv ⊢
      have hargs := (follows_lists args hv.2).1
      refine .withTarget rfl fun r => ?_
      rw [← Option.or_none (o := σ'.valuesObstacle? _ _ _)]
      exact hargs.bind fun _ _ => follows_callText h rfl r.1 r.2 _ _
  | .script _ args =>
    simp only [literalValue, demoteValue, value, Scope.valueObstacle?, Value.parts,
      apart_cons] at hv ⊢
    exact (follows_lists args hv.2).2.before
  | .construct typeName args =>
    simp only [literalValue, demoteValue, value, Scope.valueObstacle?, Value.parts,
      apart_cons] at hv ⊢
    have hargs := (follows_lists args hv.2).1
    exact (follows_constructed h typeName).bind fun _ _ => hargs.before
  | .verbatim _ =>
    simp only [literalValue, demoteValue, value, Scope.valueObstacle?]
    exact ⟨fun _ _ hrun => (by cases hrun), fun _ _ _ => ⟨by simp, rfl⟩⟩

theorem follows_lists (vs : List Value) (hvs : Apart ids (partsOf (demoteValues demoted vs))) :
    Follows e (e.on u) σ σ' (σ'.valuesObstacle? (e.on u) judge (demoteValues demoted vs))
      (valueList field (literalValues demoted text vs))
        (valueList field (demoteValues demoted vs)) ∧
    Follows e (e.on u) σ σ' (σ'.valuesObstacle? (e.on u) judge (demoteValues demoted vs))
      (scriptArgs field (literalValues demoted text vs))
      (scriptArgs field (demoteValues demoted vs)) := by
  match vs with
  | [] =>
    simp only [literalValues, demoteValues, valueList, scriptArgs, Scope.valuesObstacle?]
    exact ⟨.of_completes _ _, .of_completes _ _⟩
  | v :: rest =>
    simp only [demoteValues, partsOf, apart_append] at hvs
    have hv := follows_value v hvs.1
    obtain ⟨hrest, hscript⟩ := follows_lists rest hvs.2
    simp only [literalValues, demoteValues, valueList, Scope.valuesObstacle?]
    refine ⟨hv.bind fun _ _ => hrest.before, ?_⟩
    by_cases helement : ∃ ref, v = .element ref
    · obtain ⟨ref, rfl⟩ := helement
      simp only [demoteValue, Value.parts, apart_cons] at hvs
      simp only [literalValue, demoteValue, scriptArgs, Scope.valueObstacle?]
      have helement := follows_element h hfield hvs.1.1
      exact .after fun _ _ => helement.bind fun _ _ => hscript.before
    · rw [not_exists] at helement
      rw [scriptArgs_cons fun ref => (ne_element text helement ref).1,
        scriptArgs_cons fun ref => (ne_element text helement ref).2]
      exact hv.bind fun _ _ => hscript.before

end

theorem follows_selector (template : String) (escape : Option SelectorPlace) (v : Value)
    (hv : Apart ids (demoteValue demoted v).parts) : Follows e (e.on u) σ σ'
      (if occursIn "$value" template
        then σ'.valueObstacle? (e.on u) judge (demoteValue demoted v) else none)
      (selector field template escape (literalValue demoted text v))
      (selector field template escape (demoteValue demoted v)) := by
  have hvalue : Follows e (e.on u) σ σ' _ (value field (literalValue demoted text v)) _ :=
    follows_value h hquiet hfield v hv
  refine .after fun p p' => ?_
  cases hoccurs : occursIn "$value" template with
  | false =>
    simp only [Bool.not_false, if_true]
    exact .of_completes _ _
  | true =>
    simp only [Bool.not_true, Bool.false_eq_true, if_false]
    cases v with
    | literal l =>
      refine .ite (Follows.of_completes _ _) ?_
      exact .ite (Follows.after fun _ _ => hvalue.before) hvalue.before
    | call c =>
      obtain ⟨id, _, _, _, _, _, _⟩ := c
      cases hdemoted : demoted id with
      | true =>
        simp only [literalValue, demoteValue, hdemoted, if_true, value]
        exact .of_stop fun t => by cases escape <;> rfl
      | false =>
        simp only [literalValue, demoteValue, hdemoted] at hvalue ⊢
        exact .ite (Follows.after fun _ _ => hvalue.before) hvalue.before
    | elementQuery _ _ arg =>
      cases arg <;> exact .ite (Follows.after fun _ _ => hvalue.before) hvalue.before
    | _ => exact .ite (Follows.after fun _ _ => hvalue.before) hvalue.before

theorem follows_locatorExpression (l : Locator)
    (hl : Apart ids (demoteValue demoted l.value).parts) (scope scope' : String) (p : Provenance) :
    Follows e (e.on u) σ σ'
      (σ'.locatorObstacle? (e.on u) judge { l with value := demoteValue demoted l.value })
      (locatorExpression field { l with value := literalValue demoted text l.value } scope p)
      (locatorExpression field { l with value := demoteValue demoted l.value } scope' p) := by
  have hvalue : Follows e (e.on u) σ σ' _ (value field (literalValue demoted text l.value)) _ :=
    follows_value h hquiet hfield l.value hl
  unfold locatorExpression Scope.locatorObstacle?
  refine .withProfile ?_
  dsimp only
  cases Table.get? l.strategy e.profile.locators.strategies with
  | none => exact .of_refused
  | some template =>
    dsimp only
    cases template.shape with
    | expression form => exact hvalue.before
    | selector form =>
      exact (follows_selector h hquiet hfield form template.escape l.value hl).before

end Recursion

/-! ### Fields -/

variable (h : Twin e ids σ σ')
include h

theorem follows_fieldElement (n : Nat) (f : LocatorField) (hf : Apart ids f.locator.value.parts) :
    Follows e (e.on u) σ σ' (σ'.fieldObstacle? (e.on u) n f) (fieldElement n f)
      (fieldElement n f) := by
  induction n generalizing f with
  | zero =>
    unfold fieldElement
    exact .of_refused
  | succ n ih =>
    refine .after fun frame frame' => Follows.before ?_
    -- The locator of a field is the same on both sides.
    have hlocator : Follows e (e.on u) σ σ' _
        (locatorExpression (fieldElement n)
          { f.locator with value := literalValue (fun _ => false) "" f.locator.value } frame.page
          f.provenance)
        (locatorExpression (fieldElement n)
          { f.locator with value := demoteValue (fun _ => false) f.locator.value } frame'.page
          f.provenance) :=
      follows_locatorExpression h inferInstance ih f.locator (by rwa [(value_of_none "" _).2]) _ _ _
    rwa [(value_of_none _ _).1, (value_of_none "" _).2] at hlocator

theorem follows_fieldText (f : LocatorField) (hf : Apart ids f.locator.value.parts) :
    Follows e (e.on u) σ σ' (σ'.fieldObstacle? (e.on u) (σ'.depth (e.on u)) f) (fieldText f)
      (fieldText f) := by
  refine (follows_fieldElement h (σ'.depth (e.on u)) f hf).congr (fun s hfits => ?_) fun t hfits' =>
    run_fieldText hfits' f
  rw [run_fieldText hfits, ← h.depth_eq]
  rfl

section Texts

variable {demoted : String → Bool} {text : String}
variable {vs : List Value}

/-- **A value ends at its first obstacle**, if with texts in place of calls it can be written. -/
theorem follows_valueText {v : Value} (hv : Apart ids (demoteValue demoted v).parts) :
    Follows e (e.on u) σ σ' (σ'.obstacle? (e.on u) (demoteValue demoted v))
      (valueText (literalValue demoted text v)) (valueText (demoteValue demoted v)) :=
  follows_value h inferInstance (follows_fieldText h) v hv

theorem follows_values (hvs : Apart ids (partsOf (demoteValues demoted vs))) :
    Follows e (e.on u) σ σ' (σ'.obstacleAmong? (e.on u) (demoteValues demoted vs))
      (valueList fieldText (literalValues demoted text vs))
      (valueList fieldText (demoteValues demoted vs)) :=
  (follows_lists h inferInstance (follows_fieldText h) vs hvs).1

theorem follows_scriptValues (hvs : Apart ids (partsOf (demoteValues demoted vs))) :
    Follows e (e.on u) σ σ' (σ'.obstacleAmong? (e.on u) (demoteValues demoted vs))
      (scriptArgs fieldText (literalValues demoted text vs))
      (scriptArgs fieldText (demoteValues demoted vs)) :=
  (follows_lists h inferInstance (follows_fieldText h) vs hvs).2

theorem follows_elementText {ref : ElementRef} (href : ref.origin = .field → ref.id ∉ ids) :
    Follows e (e.on u) σ σ' (σ'.obstacleTo? (e.on u) ref) (elementText ref) (elementText ref) :=
  follows_element h (follows_fieldText h) (by simpa [fieldId?] using href)

theorem follows_locatorText {l : Locator}
    (hl : Apart ids (demoteValue demoted l.value).parts) (scope scope' : String) (p : Provenance) :
    Follows e (e.on u) σ σ'
      (σ'.obstacleOf? (e.on u) { l with value := demoteValue demoted l.value })
      (locatorText { l with value := literalValue demoted text l.value } scope p)
      (locatorText { l with value := demoteValue demoted l.value } scope' p) :=
  follows_locatorExpression h inferInstance (follows_fieldText h) l hl scope scope' p

end Texts

end Values

end TestMigration.Rendering
