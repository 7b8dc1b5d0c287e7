import TestMigration.Proofs.Rendering.Sessions
import TestMigration.Proofs.Rendering.Stalling
/-!
# Units with calls kept as text

What is known about bodies is carried to the files they are written to. Two renderings of a whole
file are compared: of the unit with texts in place of calls, and of the unit with the calls kept as
text. All that a file has around its bodies cannot fail. So if the first rendering comes to an end,
all parts of the unit have been written (`Giving`), and the second comes to an end exactly if none
of its bodies stalls (`gives_unitSections_iff`, `Deciding`).

Between bodies nothing has to be known about the two states, since each body starts in a frame of
its own; for a single part the comparison is `Leads` with no condition on the states (`Depends`).
-/

namespace TestMigration.Rendering

open TestMigration.Action Linking Text Profile

/-! ### Pairs of bodies -/

/-- Two bodies of one name in scopes for one place: with texts in place of calls, and with the calls
kept as text. -/
structure TwinBody (e : Env) (b b' : NamedBody) : Prop where
  name : b'.name = b.name
  twin : ∃ ids demoted text actions, Twin e ids b.scope b'.scope ∧ BodyApart ids b'.actions ∧
    b.actions = literalActions demoted text actions ∧ b'.actions = demoteActions demoted actions

/-- None of some bodies stalls. -/
def Passes (env : Env) (bodies : List NamedBody) : Prop :=
  ∀ b ∈ bodies, stalls env b.scope b.actions = false

theorem passes_append {env : Env} {bodies bodies' : List NamedBody} :
    Passes env (bodies ++ bodies') ↔ Passes env bodies ∧ Passes env bodies' := by
  simp [Passes, or_imp, forall_and]

theorem passes_of_empty {env : Env} {bodies : List NamedBody} (h : ∀ b ∈ bodies, b.actions = []) :
    Passes env bodies := fun b hb => by rw [h b hb, stalls]

/-! ### Where nothing is bound, both sides have the same obstacles -/

namespace Scope

variable {env env' : Env} {σ σ' : Scope} {field field' : LocatorField → Option Obstacle}

mutual

theorem valueObstacle?_congr
    (h : ∀ ref, elementObstacle? env' σ' field' ref = elementObstacle? env σ field ref)
    (v : Value) :
    valueObstacle? env' σ' field' v = valueObstacle? env σ field v := by
  match v with
  | .element ref | .elementQuery ref _ none => simp only [valueObstacle?, h]
  | .elementQuery ref query (some arg) => simp only [valueObstacle?, h, valueObstacle?_congr h arg]
  | .not operand => simp only [valueObstacle?, valueObstacle?_congr h operand]
  | .binary _ left right | .contains left right =>
    simp only [valueObstacle?, valueObstacle?_congr h left, valueObstacle?_congr h right]
  | .call (.mk _ _ _ args _ _ _) | .script _ args | .construct _ args =>
    simp only [valueObstacle?, valuesObstacle?_congr h args]
  | .verbatim _ | .literal _ | .variable _ | .driver | .pageQuery _ => simp only [valueObstacle?]

theorem valuesObstacle?_congr
    (h : ∀ ref, elementObstacle? env' σ' field' ref = elementObstacle? env σ field ref)
    (vs : List Value) : valuesObstacle? env' σ' field' vs = valuesObstacle? env σ field vs := by
  match vs with
  | [] => simp only [valuesObstacle?]
  | v :: rest =>
    simp only [valuesObstacle?, valueObstacle?_congr h v, valuesObstacle?_congr h rest]

end

end Scope

theorem Twin.obstacleOf?_eq {e : Env} {u : SourceUnit} {ids : List String} {σ σ' : Scope}
    (h : Twin e ids σ σ') (hbound : σ'.bound = σ.bound) (l : Locator) :
    σ'.obstacleOf? (e.on u) l = σ.obstacleOf? e l := by
  have helement : ∀ {field field' : LocatorField → Option Obstacle}, field' = field → ∀ ref,
      σ'.elementObstacle? (e.on u) field' ref = σ.elementObstacle? e field ref := by
    rintro field _ rfl ref
    have hfield : σ'.field? (e.on u) ref.name = σ.field? e ref.name := h.field?_eq ref.name
    simp only [Scope.elementObstacle?, hbound, h.mode, hfield]
  have hlocator : ∀ {field field' : LocatorField → Option Obstacle}, field' = field → ∀ l,
      σ'.locatorObstacle? (e.on u) field' l = σ.locatorObstacle? e field l := fun heq l => by
    simp only [Scope.locatorObstacle?, Scope.valueObstacle?_congr (helement heq)]
  have hfields : ∀ n, σ'.fieldObstacle? (e.on u) n = σ.fieldObstacle? e n := by
    intro n
    induction n with
    | zero => rfl
    | succ n ih => exact funext fun f => hlocator ih f.locator
  have hdepth : σ'.depth (e.on u) = σ.depth e := h.depth_eq
  unfold Scope.obstacleOf?
  rw [hdepth]
  exact hlocator (hfields _) l

/-! ### Runs that need no common state -/

/-- Wherever `x` gives a result, `y` does so exactly under a condition. -/
abbrev Depends (e e' : Env) (P : Prop) {α β : Type} (x : Render α) (y : Render β) : Prop :=
  Leads e e' Anywhere Anywhere P x y

section Depends

variable {e e' : Env} {P Q : Prop} {α β α' β' : Type}

variable {x : Render α} {y : Render α'} {f : α → Render β} {G : State → State → Prop}

theorem Depends.of_iff
    (h : ∀ {s s₁ t a}, x.run e s = (.ok a, s₁) → (Gives e' y t ↔ P)) : Depends e e' P x y :=
  ⟨fun _ => h, fun _ _ _ => trivial⟩

theorem Depends.of_completes (x : Render α) (y : Render α') [Keeps Completes y] :
    Depends e e' True x y :=
  .of_iff fun _ => iff_true_intro (exists_of_completes y e' _)

theorem Depends.after {g : α' → Render β'} [Keeps Completes y]
    (hf : ∀ a b, Depends e e' P (f a) (g b)) :
    Depends e e' P (x >>= f) (y >>= g) :=
  ((Depends.of_completes x y).bind hf).congr (iff_of_eq (true_and P))

theorem Depends.before {g : α' → Render β'}
    (hx : Depends e e' P x y) [∀ b, Keeps Completes (g b)] : Depends e e' P (x >>= f) (y >>= g) :=
  (hx.bind fun a b => Depends.of_completes (f a) (g b)).congr (iff_of_eq (and_true P))

theorem Depends.withEnv {f : Env → Render β} {g : Env → Render β'}
    (h : Depends e e' P (f e) (g e')) :
    Depends e e' P (read >>= f) (read >>= g) :=
  .of_iff fun hrun => h.iff trivial hrun

theorem Depends.forM {l : List β} {f g : β → Render PUnit}
    (h : ∀ b, Depends e e' True (f b) (g b)) : Depends e e' True (l.forM f) (l.forM g) := by
  induction l with
  | nil => exact Depends.of_completes (pure ()) (pure ())
  | cons b _ ih => exact ((h b).bind fun _ _ => ih).congr (by simp)

theorem Leads.anywhere {F : State → State → Prop}
    (h : Leads e e' F G P x y) : Leads e e' F Anywhere P x y :=
  ⟨h.iff, fun _ _ _ => trivial⟩

theorem Leads.inFrame {σ σ' : Scope}
    (h : Leads e e' (Fit σ σ') G P x y) {f f' : Frame} (hf : σ.Fits f) (hf' : σ'.Fits f') :
    Depends e e' P (inFrame f x) (inFrame f' y) := by
  refine .of_iff fun {s _ t a} hrun => ?_
  obtain ⟨_, hinner, rfl⟩ := exists_of_run_inFrame hrun
  rw [← h.iff (t := { t with frame := f' }) ⟨hf, hf'⟩ hinner]
  unfold Gives
  rw [run_inFrame]
  rcases y.run e' { t with frame := f' } with ⟨_ | b, _⟩ <;> simp

end Depends

/-! ### A body in a file -/

section File

variable {e : Env} {u : SourceUnit}

variable {b b' : NamedBody} {f : Frame}

theorem leads_body (henv : e.strategy ≠ .inline) (h : TwinBody e b b') :
    Leads e (e.on u) (Fit b.scope b'.scope) Anywhere
      (stalls (e.on u) b'.scope b'.actions = false) (body b.actions) (body b'.actions) := by
  obtain ⟨_, _, _, actions, htwin, hbody, hactions, hactions'⟩ := h.twin
  rw [hactions'] at hbody ⊢
  rw [hactions]
  have hreassigned : ∀ names names' : Frame → List String,
      Leads e (e.on u) (Fit b.scope b'.scope) (Fit b.scope b'.scope) True
        (modifyFrame fun f => { f with reassigned := names f })
        (modifyFrame fun f => { f with reassigned := names' f }) := fun names names' =>
    ⟨fun _ _ => iff_true_intro ⟨_, _, rfl⟩, fun hfit hrun hrun' => by
      cases hrun
      cases hrun'
      exact ⟨⟨hfit.left.unit, hfit.left.mode, hfit.left.bound⟩,
        ⟨hfit.right.unit, hfit.right.mode, hfit.right.bound⟩⟩⟩
  refine (((hreassigned _ _).bind fun _ _ => Leads.after fun _ _ => Leads.after fun _ _ =>
    (leads_bodyLines henv htwin _ _ actions hbody)).congr (iff_of_eq (true_and _))).anywhere

theorem depends_contextObjects (hname : u.unitName = e.unit.unitName) :
    Depends e (e.on u) True contextObjects contextObjects := .of_iff fun {s _ t _} hrun => by
  unfold contextObjects at hrun
  rw [run_bind_ok run_read] at hrun
  obtain ⟨chain, s₁, hsuper, -⟩ := exists_of_run_bind hrun
  have hchain : (e.on u).model.superclassChain (e.on u).unit.unitName = .ok chain := by
    rw [← superclassChain_of_run hsuper, ← hname]
  refine iff_true_intro ?_
  unfold Gives contextObjects
  rw [run_bind_ok run_read, run_bind_ok (run_superclasses hchain t)]
  exact ⟨_, _, rfl⟩

theorem depends_renderBody (henv : e.strategy ≠ .inline) (hname : u.unitName = e.unit.unitName)
    (h : TwinBody e b b') {f' : Frame} (hf : b.scope.Fits f) (hf' : b'.scope.Fits f') :
    Depends e (e.on u) (stalls (e.on u) b'.scope b'.actions = false) (renderBody b.actions f)
      (renderBody b'.actions f') := by
  have hmode : f'.mode = f.mode := by
    obtain ⟨_, _, _, _, htwin, -⟩ := h.twin
    rw [hf.mode, hf'.mode, htwin.mode]
  have hframed : ∀ objects objects', Depends e (e.on u)
      (stalls (e.on u) b'.scope b'.actions = false)
      (inFrame { f with contextObjects := objects } do
        body b.actions
        return (← frame).declared)
      (inFrame { f' with contextObjects := objects' } do
        body b'.actions
        return (← frame).declared) := by
    intro objects objects'
    have hbody : Leads e (e.on u) (Fit b.scope b'.scope) Anywhere
        (stalls (e.on u) b'.scope b'.actions = false)
        (do body b.actions; return (← frame).declared : Render (List String))
        (do body b'.actions; return (← frame).declared : Render (List String)) :=
          (leads_body henv h).before
    exact hbody.inFrame ⟨hf.unit, hf.mode, hf.bound⟩ ⟨hf'.unit, hf'.mode, hf'.bound⟩
  have houtside : (decide (f'.mode = .test) || decide (f'.mode = .function)) =
      (decide (f.mode = .test) || decide (f.mode = .function)) := by rw [hmode]
  unfold renderBody
  rw [houtside]
  split
  · exact ((depends_contextObjects hname).bind hframed).congr (iff_of_eq (true_and _))
  · exact Depends.after hframed

theorem fits_start {v : SourceUnit} {mode : Mode} (hunit : f.unit = v)
    (hmode : f.mode = mode) (hf : f.elements = []) : Scope.Fits { unit := v, mode } f :=
  ⟨hunit, hmode, fun id => by simp [hf]⟩

/-! ### Fields -/

theorem leads_locatorText {σ σ' : Scope} (h : Twin e [] σ σ') (hself : Twin e [] σ σ)
    (hbound : σ'.bound = σ.bound) (l : Locator) (scope : String) (p : Provenance) :
    Leads e (e.on u) (Fit σ σ') Anywhere True (locatorText l scope p) (locatorText l scope p) := by
  have hfollows : ∀ {σ' : Scope} {v : SourceUnit}, Twin e [] σ σ' →
      Follows e (e.on v) σ σ' (σ'.obstacleOf? (e.on v) l) (locatorText l scope p)
        (locatorText l scope p) := by
    intro σ' v htwin
    have hvalue : Follows e (e.on v) σ σ' _
        (locatorText { l with value := literalValue (fun _ => false) "" l.value } scope p)
        (locatorText { l with value := demoteValue (fun _ => false) l.value } scope p) :=
      follows_locatorText htwin (fun _ _ _ _ => List.not_mem_nil) scope scope p
    rwa [(value_of_none _ _).1, (value_of_none "" _).2] at hvalue
  refine ⟨fun {s s₁ t a} hfit hrun => iff_true_intro ?_, fun _ _ _ => trivial⟩
  -- Followed by itself, the first rendering shows that there is no obstacle.
  have hnone := (hfollows (v := e.unit) hself).ok hfit.left hfit.left hrun
  have hverdict := (hfollows (v := u) h).ok hfit.left hfit.right hrun
  rw [h.obstacleOf?_eq hbound] at hverdict
  rw [show (locatorText l scope p).run (e.on e.unit) s = _ from hrun] at hnone
  rw [← show _ = σ.obstacleOf? e l from Option.some.inj hnone] at hverdict
  exact exists_of_verdict_none hverdict

theorem depends_memberValues
    (h : Twin e [] { unit := e.unit, mode := .page } { unit := u, mode := .page })
    (hself : Twin e [] { unit := e.unit, mode := .page } { unit := e.unit, mode := .page }) :
    Depends e (e.on u) True memberValues memberValues := by
  refine Depends.withEnv ?_
  have hfields : u.locatorFields = e.unit.locatorFields := h.locatorFields
  rw [hfields]
  refine ((Depends.forM fun field => Depends.before ?_).bind fun _ _ => ?_).congr
    (iff_of_eq (and_self _))
  · exact .inFrame (leads_locatorText h hself rfl field.locator _ field.provenance).before
      (fits_start rfl rfl rfl) (fits_start rfl rfl rfl)
  · refine @Depends.of_completes _ _ _ _ _ _ (@keeps_forM _ _ _ _ _ fun member => ?_)
    refine .andThen inferInstance fun found => ?_
    cases found <;> infer_instance

end File

/-! ### From the parts of a unit to its file -/

section Parts

variable {env : Env}

variable {α : Type} {x : Render α} {s : State}

theorem gives_bind_iff {β : Type} {f : α → Render β} {P : Prop}
    (hf : ∀ a s', Gives env (f a) s' ↔ P) : Gives env (x >>= f) s ↔ Gives env x s ∧ P := by
  constructor
  · rintro ⟨b, s', hrun⟩
    obtain ⟨a, s₁, hx, hrest⟩ := exists_of_run_bind hrun
    exact ⟨⟨a, s₁, hx⟩, (hf a s₁).mp ⟨b, s', hrest⟩⟩
  · rintro ⟨⟨a, s₁, hx⟩, hP⟩
    rw [Gives, run_bind_ok hx]
    exact (hf a s₁).mpr hP

theorem gives_indented_iff {x : Render Unit} :
    Gives env (indented x) s ↔ Gives env x { s with code := s.code.deeper } := by
  unfold Gives
  rw [run_indented]
  rcases x.run env { s with code := s.code.deeper } with ⟨_ | a, _⟩ <;> simp

theorem gives_lineGroup_iff {level : Nat} :
    Gives env (lineGroup level x) s ↔ Gives env x (s.anew env level) := by
  unfold Gives
  rw [run_lineGroup]
  rcases x.run env (s.anew env level) with ⟨_ | a, _⟩ <;> simp

/-- A part of a unit has been written. Constants are left aside. -/
def Given (env : Env) : UnitPart → Prop
  | .body b => ∃ f s, b.Opens f ∧ Gives env (renderBody b.actions f) s
  | .members => ∃ s, Gives env memberValues s
  | .superclasses => ∃ chain, env.model.superclassChain env.unit.unitName = .ok chain
  | .constants => True

/-- What comes to an end has written its parts. -/
abbrev Giving (env : Env) : Assembly where
  plain := Keeping env Completes
  Holds parts _ x _ := ∀ s, Gives env x s → ∀ p ∈ parts, Given env p

instance assembles_giving : AssemblesFile env (Giving env) where
  plain _ _ _ := by simp
  next hx hf _ := by
    rintro ⟨b, s', hrun⟩
    obtain ⟨a, s₁, hfirst, hrest⟩ := exists_of_run_bind hrun
    exact List.forall_mem_append.mpr ⟨hx _ ⟨a, s₁, hfirst⟩, hf a _ ⟨b, s', hrest⟩⟩
  ask h s hgives := h _ (.refl _) s hgives
  indented hx _ hgives := hx _ (gives_indented_iff.mp hgives)
  body hf _ s hgives := List.forall_mem_singleton.mpr ⟨_, s, hf, hgives⟩
  empty _ _ hidle _ _ := by
    rw [List.forall_mem_map]
    intro b hb
    obtain ⟨f, s, r, s', hf, hrun⟩ := hidle b hb
    exact ⟨f, s, hf, r, s', hrun⟩
  members s hgives := List.forall_mem_singleton.mpr ⟨s, hgives⟩
  group _ hx _ hgives := hx _ (gives_lineGroup_iff.mp hgives)
  code _ := Keeps.out env
  constants _ _ := by simp [Given]
  chain h _ := by
    rintro ⟨b, s', hrun⟩
    obtain ⟨chain, s₁, hsuper, hrest⟩ := exists_of_run_bind hrun
    have hchain := superclassChain_of_run hsuper
    exact List.forall_mem_cons.mpr ⟨⟨chain, hchain⟩, h hchain _ ⟨b, s', hrest⟩⟩
  inherited _ _ _ := trivial

/-- Parts about which enough is known are written exactly if none of the bodies stalls. -/
abbrev Deciding (env : Env) (known : UnitPart → Prop) : Assembly where
  plain := Keeping env Completes
  Holds parts _ x _ := (∀ p ∈ parts, known p) → ∀ s,
    (Gives env x s ↔ Passes env (parts.filterMap UnitPart.body?))

theorem assembles_deciding {known : UnitPart → Prop}
    (hbody : ∀ {b f}, known (.body b) → b.Opens f → ∀ s,
      (Gives env (renderBody b.actions f) s ↔ stalls env b.scope b.actions = false))
    (hmembers : known .members → ∀ s, Gives env memberValues s)
    (hconstants : ∀ s, Gives env constantSections s)
    (hsuper : known .superclasses → ∃ chain, env.model.superclassChain env.unit.unitName =
      .ok chain) :
    AssemblesFile env (Deciding env known) where
  plain {_ x _} h _ s := by
    have hend : stopOf (x.run env s).1 = none := h s
    rcases hrun : x.run env s with ⟨_ | a, s'⟩
    · rw [hrun] at hend
      cases hend
    · exact iff_of_true ⟨a, s', hrun⟩ (by simp [Passes])
  next hx hf hknown s := by
    obtain ⟨hps, hqs⟩ := List.forall_mem_append.mp hknown
    rw [gives_bind_iff fun a s' => hf a hqs s', hx hps, List.filterMap_append, passes_append]
  ask h hknown s := h _ (.refl _) hknown s
  indented hx hknown _ := gives_indented_iff.trans (hx hknown _)
  body {b f} hf _ hknown s := by
    rw [hbody (List.forall_mem_singleton.mp hknown) hf]
    simp [Passes, UnitPart.body?]
  empty a h _ _ _ := by
    rw [filterMap_map_body]
    exact iff_of_true ⟨a, _, rfl⟩ (passes_of_empty h)
  members hknown s :=
    iff_of_true (hmembers (List.forall_mem_singleton.mp hknown) s)
      (by simp [Passes, UnitPart.body?])
  group _ hx hknown _ := gives_lineGroup_iff.trans (hx hknown _)
  code _ := Keeps.out env
  constants _ s := iff_of_true (hconstants s) (by simp [Passes, UnitPart.body?])
  chain h hknown s := by
    obtain ⟨hfirst, hrest⟩ := List.forall_mem_cons.mp hknown
    obtain ⟨chain, hchain⟩ := hsuper hfirst
    rw [Gives, run_bind_ok (run_superclasses hchain s)]
    exact h hchain hrest s
  inherited _ _ _ := trivial

theorem gives_constantSections (h : ∀ c ∈ env.unit.constants, Literal.Writable c.value)
    (s : State) :
    Gives env constantSections s := by
  have hlines : Keeps Completes (env.unit.constants.forM fun c => do
      line (fill env.profile.files.constant
        [("name", ← ident c.name), ("value", ← literal c.value)])) := by
    generalize env.unit.constants = constants at h
    induction constants with
    | nil => exact keeps_pure ()
    | cons c _ ih =>
      obtain ⟨hc, hrest⟩ := List.forall_mem_cons.mp h
      have := hc.completes
      exact .andThen inferInstance fun _ => ih hrest
  unfold Gives constantSections
  rw [run_bind_ok run_read]
  split
  · exact ⟨[], s, rfl⟩
  · obtain ⟨code, s', hrun⟩ := @exists_of_completes _ _ (@completes_fileSection 0 _ hlines) env s
    rw [run_bind_ok hrun]
    exact ⟨[code], s', rfl⟩

end Parts

/-! ### The two forms of a unit -/

/-- No lookup of a body gives the element of a field that the body or the locator of a field
uses. -/
structure FieldsApart (env : Env) (b : NamedBody) : Prop where
  actions : ∀ a ∈ all b.actions, ActionApart (lookupIds b.actions) a
  fields : ∀ name f, b.scope.field? env name = some f →
    Apart (lookupIds b.actions) f.locator.value.parts

/-- Bodies with some actions are pairs wherever they stand in two units, if the second keeps apart
from fields. -/
def TwinActions (e e' : Env) (v v' : SourceUnit) (actions actions' : List Action) : Prop :=
  ∀ name mode, FieldsApart e' ⟨name, { unit := v', mode }, actions'⟩ →
    TwinBody e ⟨name, { unit := v, mode }, actions⟩ ⟨name, { unit := v', mode }, actions'⟩

structure TwinMethod (e e' : Env) (v v' : SourceUnit) (m m' : Method) : Prop where
  name : m'.name = m.name
  params : m'.params = m.params
  role : m'.role = m.role
  actions : TwinActions e e' v v' m.actions m'.actions

structure TwinMethods (e e' : Env) (v v' : SourceUnit) : Prop where
  simpleName : v'.simpleName = v.simpleName
  methods : List.Forall₂ (TwinMethod e e' v v') v.methods v'.methods

section Twins

variable {e e' : Env} {v v' : SourceUnit}

/-- Two bodies are pairs if the second one keeps apart from fields. -/
abbrev TwinIfApart (e e' : Env) (b b' : NamedBody) : Prop := FieldsApart e' b' → TwinBody e b b'

theorem TwinMethods.withRole (h : TwinMethods e e' v v') (roles : List MethodRole) :
    List.Forall₂ (TwinMethod e e' v v') (v.methodsWithRole roles) (v'.methodsWithRole roles) :=
  List.rel_filter (fun _ _ hm => by simp only [hm.role]) h.methods

theorem TwinMethods.bodies (h : TwinMethods e e' v v') (mode : Mode) {ms ms' : List Method}
    (hms : List.Forall₂ (TwinMethod e e' v v') ms ms') :
    List.Forall₂ (TwinIfApart e e') (ms.map (methodBody mode v))
      (ms'.map (methodBody mode v')) := by
  refine List.rel_map (fun m m' hm => ?_) hms
  unfold methodBody Method.arity
  rw [h.simpleName, hm.name, hm.params]
  exact hm.actions _ mode

theorem twin_lifecycle {vs vs' : List SourceUnit} (h : List.Forall₂ (TwinMethods e e') vs vs')
    (label : String) (roles : List MethodRole) :
    List.Forall₂ (TwinIfApart e e') ((lifecycle vs roles).map (hookBody label))
      ((lifecycle vs' roles).map (hookBody label)) := by
  unfold lifecycle
  rw [List.map_flatMap, List.map_flatMap]
  refine List.rel_flatMap h fun v v' hv => ?_
  rw [List.map_map, List.map_map]
  refine List.rel_map (fun m m' hm => ?_) (hv.withRole roles)
  unfold hookBody Function.comp
  dsimp only
  rw [hv.simpleName, hm.name]
  exact hm.actions _ .test

theorem twins_of_apart {bodies bodies' : List NamedBody}
    (h : List.Forall₂ (TwinIfApart e e') bodies bodies')
    (hapart : ∀ b ∈ bodies', FieldsApart e' b) :
    List.Forall₂ (TwinBody e) bodies bodies' := by
  induction h with
  | nil => exact .nil
  | cons hfirst _ ih =>
    obtain ⟨hb, hrest⟩ := List.forall_mem_cons.mp hapart
    exact .cons (hfirst hb) (ih hrest)

theorem exists_left_of_forall₂ {α β : Type} {R : α → β → Prop} {l : List α} {l' : List β}
    (h : List.Forall₂ R l l') {b : β} (hb : b ∈ l') : ∃ a ∈ l, R a b := by
  induction h with
  | nil => cases hb
  | cons hab _ ih =>
    rw [List.exists_mem_cons_iff]
    rcases List.mem_cons.mp hb with rfl | hb
    · exact .inl hab
    · exact .inr (ih hb)

end Twins

section Forms

variable {env : Env} {u : SourceUnit} {demoted : String → Bool} {text : String}

section

variable (hconstants : ∀ c ∈ u.constants, Literal.Writable c.value)
include hconstants

theorem twin_own (mode : Mode) {ids : List String} (hfields : ∀ name f,
      Scope.field? (env.on (demoteUnit demoted u)) { unit := demoteUnit demoted u, mode } name =
        some f →
        Apart ids f.locator.value.parts) :
    Twin (env.on (literalUnit demoted text u)) ids { unit := literalUnit demoted text u, mode }
      { unit := demoteUnit demoted u, mode } where
  unitName := rfl
  package := rfl
  locatorFields := rfl
  writable := hconstants
  mode := rfl
  bound _ h := h
  known := nofun
  apart := hfields

theorem twinActions_own (actions : List Action) :
    TwinActions (env.on (literalUnit demoted text u)) (env.on (demoteUnit demoted u))
      (literalUnit demoted text u) (demoteUnit demoted u) (literalActions demoted text actions)
      (demoteActions demoted actions) := fun _ mode h =>
  ⟨rfl, _, demoted, text, actions, twin_own hconstants mode h.fields, ⟨fun _ h => h, h.actions⟩,
    rfl, rfl⟩

theorem twinMethods_own :
    TwinMethods (env.on (literalUnit demoted text u)) (env.on (demoteUnit demoted u))
      (literalUnit demoted text u) (demoteUnit demoted u) where
  simpleName := rfl
  methods := by
    refine List.forall₂_map_left_iff.mpr (List.forall₂_map_right_iff.mpr (List.forall₂_same.mpr ?_))
    exact fun m _ => ⟨rfl, rfl, rfl, twinActions_own hconstants m.actions⟩

end

theorem twinMethods_same {v : SourceUnit}
    (hconstants : ∀ c ∈ v.constants, Literal.Writable c.value) :
    TwinMethods (env.on (literalUnit demoted text u)) (env.on (demoteUnit demoted u)) v v where
  simpleName := rfl
  methods := List.forall₂_same.mpr fun m _ =>
    ⟨rfl, rfl, rfl, fun _ _ h => ⟨rfl, _, fun _ => false, "",
    m.actions, ⟨rfl, rfl, rfl, hconstants, rfl, fun _ h => h, nofun, h.fields⟩,
      ⟨fun _ h => h, h.actions⟩,
    (actions_of_none "" _).1.symm, (actions_of_none "" _).2.symm⟩⟩

/-- What is known about a unit of a model, in both of its forms. -/
structure Comparable (env : Env) (demoted : String → Bool) (u : SourceUnit) : Prop where
  calls : env.strategy ≠ .inline
  unit : demoteUnit demoted u ∈ env.model.units
  constants : ∀ v ∈ env.model.units, ∀ c ∈ v.constants, Literal.Writable c.value
  fields : ∀ b ∈ namedBodies (env.on (demoteUnit demoted u)),
    FieldsApart (env.on (demoteUnit demoted u)) b

theorem Comparable.own (h : Comparable env demoted u) :
    ∀ c ∈ u.constants, Literal.Writable c.value :=
  h.constants (demoteUnit demoted u) h.unit

theorem twinChain_of_comparable (h : Comparable env demoted u) :
    List.Forall₂ (TwinMethods (env.on (literalUnit demoted text u)) (env.on (demoteUnit demoted u)))
      (unitChain (env.on (literalUnit demoted text u)))
        (unitChain (env.on (demoteUnit demoted u))) := by
  cases hchain : env.model.superclassChain u.unitName with
  | ok chain =>
    have hunits : ∀ v, v.unitName = u.unitName → unitChain (env.on v) = v :: chain := fun v hv =>
      (unitChain_eq (by rw [← hchain, ← hv])).symm
    rw [hunits (literalUnit demoted text u) rfl, hunits (demoteUnit demoted u) rfl]
    refine .cons (twinMethods_own h.own) (List.forall₂_same.mpr fun v hv => twinMethods_same ?_)
    exact h.constants v (mem_units_of_superclassChain hchain hv)
  | error =>
    have hnone : ∀ v : SourceUnit, v.unitName = u.unitName → unitChain (env.on v) = [] :=
      fun v hv => by
      unfold unitChain
      rw [hv, hchain]
    rw [hnone (literalUnit demoted text u) rfl, hnone (demoteUnit demoted u) rfl]
    exact .nil

theorem isEmpty_tests_literalUnit :
    (literalUnit demoted text u).tests.isEmpty = (demoteUnit demoted u).tests.isEmpty := by
  simp [literalUnit, demoteUnit]

theorem kind_literalUnit : (literalUnit demoted text u).kind = (demoteUnit demoted u).kind := rfl

/-- **The bodies of a unit are pairs.** -/
theorem twinBodies_of_comparable (h : Comparable env demoted u) :
    List.Forall₂ (TwinBody (env.on (literalUnit demoted text u)))
      (namedBodies (env.on (literalUnit demoted text u)))
      (namedBodies (env.on (demoteUnit demoted u))) := by
  refine twins_of_apart ?_ h.fields
  have hown : TwinMethods (env.on (literalUnit demoted text u)) (env.on (demoteUnit demoted u))
    (literalUnit demoted text u) (demoteUnit demoted u) := twinMethods_own h.own
  have hsuite : List.Forall₂ (TwinIfApart (env.on (literalUnit demoted text u))
      (env.on (demoteUnit demoted u))) (namedSuiteBodies (env.on (literalUnit demoted text u)))
      (namedSuiteBodies (env.on (demoteUnit demoted u))) := by
    have hchain := @twinChain_of_comparable _ _ _ text h
    refine List.rel_append (List.rel_append (twin_lifecycle (List.rel_reverse hchain) _ _)
      (twin_lifecycle hchain _ _)) ?_
    refine List.forall₂_map_left_iff.mpr (List.forall₂_map_right_iff.mpr ?_)
    refine List.forall₂_map_left_iff.mpr (List.forall₂_map_right_iff.mpr (List.forall₂_same.mpr ?_))
    exact fun t _ => twinActions_own h.own t.actions _ .test
  unfold namedBodies
  rw [kind_literalUnit]
  cases (demoteUnit demoted u).kind with
  | testClass | suite =>
    refine List.rel_append (hown.bodies .function (hown.withRole _)) ?_
    rw [isEmpty_tests_literalUnit]
    split
    · exact .nil
    · exact hsuite
  | pageObject =>
    refine List.rel_append ?_ (hown.bodies .page (hown.withRole _))
    have hfirst := hown.withRole [.constructor]
    revert hfirst
    generalize (literalUnit demoted text u).methodsWithRole [.constructor] = l
    generalize (demoteUnit demoted u).methodsWithRole [.constructor] = l'
    rintro (_ | ⟨hm, _⟩)
    · exact .nil
    · exact .cons (hm.actions _ .page) .nil
  | utilityModule | support =>
    exact hown.bodies .function
      (List.rel_filter (fun _ _ hm => by simp only [hm.role]) hown.methods)

theorem mem_unitParts_literalUnit {p : UnitPart}
    (hp : p ∈ unitParts (env.on (demoteUnit demoted u)))
    (hbody : p.body? = none) : p ∈ unitParts (env.on (literalUnit demoted text u)) := by
  revert hp
  unfold unitParts suiteParts
  rw [kind_literalUnit, isEmpty_tests_literalUnit]
  generalize (demoteUnit demoted u).kind = kind
  generalize (demoteUnit demoted u).tests.isEmpty = none
  cases p with
  | body b => cases hbody
  | constants | members | superclasses => cases kind <;> cases none <;> simp

theorem twin_fields (hconstants : ∀ c ∈ u.constants, Literal.Writable c.value) :
    Twin (env.on (literalUnit demoted text u)) []
        { unit := literalUnit demoted text u, mode := .page }
        { unit := demoteUnit demoted u, mode := .page } ∧
      Twin (env.on (literalUnit demoted text u)) []
        { unit := literalUnit demoted text u, mode := .page }
        { unit := literalUnit demoted text u, mode := .page } := by
  have hnone : ∀ name f, Scope.field? (env.on (demoteUnit demoted u))
      { unit := demoteUnit demoted u, mode := .page } name = some f →
        Apart [] f.locator.value.parts :=
    fun _ _ _ _ _ _ _ => List.not_mem_nil
  exact ⟨twin_own hconstants .page hnone, rfl, rfl, rfl, hconstants, rfl, fun _ h => h, nofun,
    hnone⟩

/-- **If the unit with texts comes to an end, the other does exactly if none of its bodies
stalls.** -/
theorem gives_unitSections_iff (h : Comparable env demoted u) {s t : State}
    (hliteral : Gives (env.on (literalUnit demoted text u)) unitSections s) :
    Gives (env.on (demoteUnit demoted u)) unitSections t ↔
      Passes (env.on (demoteUnit demoted u)) (namedBodies (env.on (demoteUnit demoted u))) := by
  have hgiven :=
    (@builds_unitSections _ _
      (@assembles_giving (env.on (literalUnit demoted text u)))).out s hliteral
  have henv : (env.on (literalUnit demoted text u)).strategy ≠ .inline := h.calls
  have hname : (demoteUnit demoted u).unitName =
    (env.on (literalUnit demoted text u)).unit.unitName := rfl
  obtain ⟨hfields, hself⟩ := @twin_fields env u demoted text h.own
  -- What is known about a part is that it has been written for the other form.
  have := @assembles_deciding (env.on (demoteUnit demoted u)) (fun p =>
    p.body?.elim (Given (env.on (literalUnit demoted text u)) p) fun b' => ∃ b,
      TwinBody (env.on (literalUnit demoted text u)) b b' ∧
        Given (env.on (literalUnit demoted text u)) (.body b))
    (by
      rintro b' _ ⟨b, htwin, f, s, hf, a, s', hrun⟩ hf' t
      exact (depends_renderBody henv hname htwin hf.fits hf'.fits).iff trivial hrun)
    (fun ⟨s, a, s', hrun⟩ t => ((depends_memberValues hfields hself).iff trivial hrun).mpr trivial)
    (gives_constantSections h.own) id
  rw [(@builds_unitSections _ _ this).out ?_ t, filterMap_unitParts]
  intro p hp
  cases hbody : p.body? with
  | none =>
    exact hgiven p (mem_unitParts_literalUnit hp hbody)
  | some b' =>
    have hb' : b' ∈ namedBodies (env.on (demoteUnit demoted u)) := by
      rw [← filterMap_unitParts]
      exact List.mem_filterMap.mpr ⟨p, hp, hbody⟩
    obtain ⟨b, hb, htwin⟩ := exists_left_of_forall₂ (@twinBodies_of_comparable _ _ _ text h) hb'
    rw [← filterMap_unitParts] at hb
    obtain ⟨q, hq, hqbody⟩ := List.mem_filterMap.mp hb
    cases q <;> cases hqbody
    exact ⟨b, htwin, hgiven _ hq⟩

end Forms

end TestMigration.Rendering
