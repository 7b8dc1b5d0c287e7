import TestMigration.Proofs.Rendering.BodyKinds
import TestMigration.Proofs.Rendering.TargetForm
/-!
# Kinds of steps for whole files

The file of a unit is put together from bodies in many places: functions, hooks, tests, a
constructor and methods. Around them come lines that look the same for all units. Which parts there
are is listed by `unitParts`, and the functions that write a file are gone through once, each with
the parts it writes: what is true of each part, of the lines around, and of parts that follow each
other (`Assembles`) is true of all sections of a unit (`assembles_unitSections`).
-/

namespace TestMigration.Rendering

open TestMigration.Action Text Profile

set_option synthInstance.maxSize 400

/-! ### Bodies and their names -/

/-- A body that is written, with the name of its fragments. -/
structure NamedBody where
  name : String
  scope : Scope
  actions : List Action

def methodBody (mode : Mode) (u : SourceUnit) (m : Method) : NamedBody where
  name := u.simpleName ++ "." ++ m.name ++ "/" ++ toString m.arity
  scope := { unit := u, mode }
  actions := m.actions

def hookBody (label : String) (m : SourceUnit × Method) : NamedBody where
  name := label ++ ":" ++ m.1.simpleName ++ "." ++ m.2.name
  scope := { unit := m.1, mode := .test }
  actions := m.2.actions

def testBody (u : SourceUnit) (t : TestCase) : NamedBody where
  name := "test:" ++ t.name
  scope := { unit := u, mode := .test }
  actions := t.actions

def constructorBody (u : SourceUnit) (c : Method) : NamedBody where
  name := u.simpleName ++ ".<init>"
  scope := { unit := u, mode := .page }
  actions := c.actions

/-- The unit and its superclasses, the nearest first. -/
def unitChain (env : Env) : List SourceUnit :=
  match env.model.superclassChain env.unit.unitName with
  | .ok chain => env.unit :: chain
  | .error _ => []

/-- The bodies of a suite: those before each test, those after it, and the tests. -/
def namedSuiteBodies (env : Env) : List NamedBody :=
  (lifecycle (unitChain env).reverse [.setupAll, .setup]).map (hookBody "setup") ++
    (lifecycle (unitChain env) [.teardown, .teardownAll]).map (hookBody "teardown") ++
    env.unit.tests.map (testBody env.unit)

/-- The bodies written for a unit, in order. -/
def namedBodies (env : Env) : List NamedBody :=
  match env.unit.kind with
  | .testClass | .suite =>
    (env.unit.methodsWithRole [.helper]).map (methodBody .function env.unit) ++
      if env.unit.tests.isEmpty then [] else namedSuiteBodies env
  | .pageObject =>
    (env.unit.methodsWithRole [.constructor]).head?.toList.map (constructorBody env.unit) ++
      (env.unit.methodsWithRole [.pageMethod]).map (methodBody .page env.unit)
  | .utilityModule | .support =>
    (env.unit.methods.filter (·.role != .constructor)).map (methodBody .function env.unit)

/-- A frame in which a body is begun. -/
structure NamedBody.Opens (b : NamedBody) (f : Frame) : Prop where
  name : f.body = b.name := by rfl
  unit : f.unit = b.scope.unit := by rfl
  mode : f.mode = b.scope.mode := by rfl
  bound : b.scope.bound = [] := by rfl
  elements : f.elements = [] := by rfl

variable {α : Type}

theorem NamedBody.Opens.fits {b : NamedBody} {f : Frame} (h : b.Opens f) : b.scope.Fits f :=
  ⟨h.unit, h.mode, fun id => by simp [h.bound, h.elements]⟩

/-! ### Superclasses -/

section Superclasses

variable {env : Env}
variable {m : Model} {name : String} {u : SourceUnit} {chain : List SourceUnit}

theorem find?_of_unit (h : m.unit name = .ok u) : m.units.find? (·.unitName == name) = some u := by
  unfold Model.unit at h
  split at h
  · rename_i found hfound
    cases h
    exact hfound
  · cases h

theorem mem_units_of_unit (h : m.unit name = .ok u) :
    u ∈ m.units := List.mem_of_find?_eq_some (find?_of_unit h)

theorem exists_of_mem_mapM {α β ε : Type} {f : α → Except ε β} {l : List α} {found : List β}
    (h : l.mapM f = .ok found) {b : β} (hb : b ∈ found) : ∃ a ∈ l, f a = .ok b := by
  induction l generalizing found with
  | nil =>
    cases h
    cases hb
  | cons a rest ih =>
    rw [List.mapM_cons] at h
    obtain ⟨_, ha, h⟩ := bind_eq_ok_iff.mp h
    obtain ⟨_, hrest, h⟩ := bind_eq_ok_iff.mp h
    cases h
    rcases List.mem_cons.mp hb with rfl | hmem
    · exact ⟨a, List.mem_cons_self, ha⟩
    · obtain ⟨a', ha', hfound⟩ := ih hrest hmem
      exact ⟨a', List.mem_cons_of_mem a ha', hfound⟩

theorem mem_units_of_superclassChain
    (h : m.superclassChain name = .ok chain) {v : SourceUnit} (hv : v ∈ chain) : v ∈ m.units :=
  have ⟨_, _, hunit⟩ := exists_of_mem_mapM h hv
  mem_units_of_unit hunit

theorem unitChain_eq
    (h : env.model.superclassChain env.unit.unitName = .ok chain) :
    env.unit :: chain = unitChain env := by
  rw [unitChain, h]

theorem superclassChain_of_run {s s' : State} (h : superclasses.run env s = (.ok chain, s')) :
    env.model.superclassChain env.unit.unitName = .ok chain := by
  unfold superclasses at h
  rw [run_bind_ok run_read] at h
  exact (run_liftHalt h).1

theorem run_superclasses (h : env.model.superclassChain env.unit.unitName = .ok chain) (s : State) :
    superclasses.run env s = (.ok chain, s) := by
  unfold superclasses
  rw [run_bind_ok run_read, h]
  rfl

/-- A body without actions is written if the page objects of the unit can be looked up. -/
theorem exists_run_renderBody_nil {f : Frame} (h : f.mode = .page ∨
    ∃ chain, env.model.superclassChain env.unit.unitName = .ok chain) (s : State) :
    ∃ r s', (renderBody [] f).run env s = (.ok r, s') := by
  have hinner : ∀ objects s, ∃ r s', (inFrame { f with contextObjects := objects } do
      body []
      return (← frame).declared).run env s = (.ok r, s') := by
    intro objects s
    have : Keeps Completes (actionsOf []) := by unfold actionsOf bodyLines; infer_instance
    have : Keeps Completes (body []) := by unfold body; infer_instance
    obtain ⟨r, s', hrun⟩ := exists_of_completes (do body []; return (← frame).declared) env
      { s with frame := { f with contextObjects := objects } }
    rw [run_inFrame, hrun]
    exact ⟨r, _, rfl⟩
  unfold renderBody
  split
  · rename_i houtside
    rcases h with hpage | ⟨chain, hchain⟩
    · simp [hpage] at houtside
    · unfold contextObjects
      rw [bind_assoc, run_bind_ok run_read, bind_assoc, run_bind_ok (run_superclasses hchain s)]
      exact hinner _ s
  · exact hinner [] s

end Superclasses

/-! ### Groups of lines -/

/-- The state with nothing written yet, at a level. -/
def State.anew (s : State) (env : Env) (level : Nat) : State :=
  { s with code := { indent := env.profile.phrases.indent, level } }

/-- A group of lines is written apart from the code around it, which is put back. -/
theorem run_lineGroup (level : Nat) (x : Render α) (env : Env) (s : State) :
    (lineGroup level x).run env s = match x.run env (s.anew env level) with
      | (.ok a, s') => (.ok (a, s'.code), { s' with code := s.code })
      | (.error stop, s') => (.error stop, s') := by
  have henter : (modifyCode fun _ => { indent := env.profile.phrases.indent, level }).run env s =
      (.ok (), s.anew env level) := rfl
  have hget : (get : Render State).run env s = (.ok s, s) := rfl
  unfold lineGroup
  rw [run_bind_ok hget, run_bind_ok run_phrases, run_bind_ok henter, run_bind]
  rcases x.run env (s.anew env level) with ⟨stop | a, s'⟩ <;> rfl

/-- A group of lines starts empty; its lines and the session are left of it. -/
theorem exists_of_run_lineGroup {env : Env} {s s' : State} {level : Nat} {x : Render α}
    {r : α × Code} (hrun : (lineGroup level x).run env s = (.ok r, s')) :
    ∃ s₀ s₁, s₀.session = s.session ∧ s₀.code.lines = [] ∧ x.run env s₀ = (.ok r.1, s₁) ∧
      r.2 = s₁.code ∧ s'.session = s₁.session := by
  rw [run_lineGroup] at hrun
  rcases hinner : x.run env (s.anew env level) with ⟨_ | a, s₁⟩ <;>
    rw [hinner] at hrun <;> cases hrun
  exact ⟨s.anew env level, s₁, rfl, rfl, hinner, rfl, rfl⟩

/-! ### The parts of a unit -/

/-- What a unit is written from. -/
inductive UnitPart where
  | body (b : NamedBody)
  | constants
  | members
  | superclasses

def suiteParts (env : Env) : List UnitPart := .superclasses :: (namedSuiteBodies env).map .body

def unitParts (env : Env) : List UnitPart :=
  match env.unit.kind with
  | .testClass | .suite =>
    .constants :: ((env.unit.methodsWithRole [.helper]).map
      (.body ∘ methodBody .function env.unit) ++
      if env.unit.tests.isEmpty then [] else suiteParts env)
  | .pageObject =>
    .superclasses :: .members ::
      ((env.unit.methodsWithRole [.constructor]).head?.toList.map
        (.body ∘ constructorBody env.unit) ++
        (env.unit.methodsWithRole [.pageMethod]).map (.body ∘ methodBody .page env.unit)) ++
          [.constants]
  | .utilityModule | .support =>
    .constants ::
      (env.unit.methods.filter (·.role != .constructor)).map (.body ∘ methodBody .function env.unit)

def UnitPart.body? : UnitPart → Option NamedBody
  | .body b => some b
  | _ => none

theorem filterMap_map_body (bodies : List NamedBody) :
    (bodies.map UnitPart.body).filterMap UnitPart.body? = bodies := by
  induction bodies with
  | nil => rfl
  | cons b _ ih =>
    rw [List.map_cons, List.filterMap_cons_some (show UnitPart.body? _ = _ from rfl), ih]

theorem filterMap_unitParts (env : Env) :
    (unitParts env).filterMap UnitPart.body? = namedBodies env := by
  have hsuite : (suiteParts env).filterMap UnitPart.body? = namedSuiteBodies env :=
    filterMap_map_body _
  unfold unitParts namedBodies
  simp only [← List.map_map]
  split
  all_goals simp only [List.filterMap_cons, List.filterMap_append, UnitPart.body?,
    filterMap_map_body, List.filterMap_nil, List.append_nil]
  all_goals split <;> simp [hsuite]

/-! ### Putting files together -/

/-- A way in which steps that write parts of a unit are looked at. -/
structure Assembly where
  /-- The kind of the steps around the parts. -/
  plain : Kind
  Holds (parts : List UnitPart) {α : Type} : Render α → Render α → Prop

/-- Two steps write some parts of a unit. -/
structure Builds (env : Env) (W : Assembly) (parts : List UnitPart) {α : Type} (x y : Render α) :
    Prop where
  out : W.Holds parts x y

/-- A step writes some parts of a unit. -/
abbrev Makes (env : Env) (W : Assembly) (parts : List UnitPart) {α : Type} (x : Render α) : Prop :=
  Builds env W parts x x

/-- Parts of a unit are written, and lines around them. -/
class Assembles (env : Env) (W : Assembly) : Prop extends Kind.Lays env W.plain,
    Kind.Remarks env W.plain, Kind.Home env W.plain where
  plain {α : Type} {x y : Render α} : W.plain.Holds x y → W.Holds [] x y
  next {α β : Type} {ps qs : List UnitPart} {x y : Render α} {f g : α → Render β} : W.Holds ps x y →
    (∀ a, W.Holds qs (f a) (g a)) → W.Holds (ps ++ qs) (x >>= f) (y >>= g)
  ask {β : Type} {ps : List UnitPart} {f g : Env → Render β} :
    (∀ m, Beside W.plain.inside env.model m → W.Holds ps (f env) (g { env with model := m })) →
      W.Holds ps (read >>= f) (read >>= g)
  indented {ps : List UnitPart} {x y : Render Unit} :
    W.Holds ps x y → W.Holds ps (indented x) (indented y)
  body {b : NamedBody} {f : Frame} : b.Opens f → W.plain.inside f.unit →
    W.Holds [.body b] (renderBody b.actions f) (renderBody b.actions f)
  /-- Bodies without actions may be left out where they could be written. -/
  empty {α : Type} {bodies : List NamedBody} (a : α) : (∀ b ∈ bodies, b.actions = []) →
    (∀ b ∈ bodies, ∃ f s r s', b.Opens f ∧ (renderBody b.actions f).run env s = (.ok r, s')) →
    W.Holds (bodies.map .body) (pure a) (pure a)
  members : W.Holds [.members] memberValues memberValues

/-- Lines are written apart and put together later. -/
class AssemblesFile (env : Env) (W : Assembly) : Prop extends Assembles env W where
  group {α : Type} {ps : List UnitPart} {x y : Render α} (level : Nat) : W.Holds ps x y →
    W.Holds ps (lineGroup level x) (lineGroup level y)
  code (f : Code → Code) : W.plain.Holds (modifyCode f) (modifyCode f)
  constants : W.Holds [.constants] constantSections constantSections
  chain {β : Type} {ps : List UnitPart} {f g : List SourceUnit → Render β} :
    (∀ {chain}, env.model.superclassChain env.unit.unitName = .ok chain →
      W.Holds ps (f chain) (g chain)) →
    W.Holds (.superclasses :: ps) (superclasses >>= f) (superclasses >>= g)
  inherited {chain : List SourceUnit} : env.model.superclassChain env.unit.unitName = .ok chain →
    ∀ u ∈ chain, W.plain.inside u

namespace Builds

variable {α β : Type} {env : Env} {W : Assembly} [Assembles env W] {ps qs : List UnitPart}
variable {x y : Render α} {f g : α → Render β}

theorem next (hx : Builds env W ps x y)
    (hf : ∀ a, Builds env W qs (f a) (g a)) : Builds env W (ps ++ qs) (x >>= f) (y >>= g) :=
  ⟨Assembles.next env hx.out fun a => (hf a).out⟩

theorem plain (hx : Akin env W.plain x y) : Builds env W [] x y :=
  ⟨Assembles.plain env hx.out⟩

theorem after [hx : Akin env W.plain x y]
    (hf : ∀ a, Builds env W ps (f a) (g a)) : Builds env W ps (x >>= f) (y >>= g) :=
  (plain hx).next hf

theorem last (hx : Builds env W ps x y)
    (hf : ∀ a, Builds env W [] (f a) (g a)) : Builds env W ps (x >>= f) (y >>= g) := by
  have h := hx.next hf
  rwa [List.append_nil] at h

theorem before (hx : Builds env W ps x y)
    [hf : ∀ a, Akin env W.plain (f a) (g a)] : Builds env W ps (x >>= f) (y >>= g) :=
  hx.last fun a => plain (hf a)

theorem ask {f g : Env → Render β} (h : ∀ m, Beside W.plain.inside env.model m →
    Builds env W ps (f env) (g { env with model := m })) :
    Builds env W ps (read >>= f) (read >>= g) :=
  ⟨Assembles.ask fun m hm => (h m hm).out⟩

theorem indented {x y : Render Unit} (hx : Builds env W ps x y) :
    Builds env W ps (indented x) (indented y) := ⟨Assembles.indented env hx.out⟩

theorem forM {l : List β} {f g : β → Render PUnit} {part : β → UnitPart}
    (hf : ∀ b, Builds env W [part b] (f b) (g b)) :
    Builds env W (l.map part) (l.forM f) (l.forM g) := by
  induction l with
  | nil => exact plain (is_pure _)
  | cons b _ ih => exact (hf b).next fun _ => ih

theorem body {b : NamedBody} {f : Frame} (hf : b.Opens f) (hunit : W.plain.inside f.unit) :
    Makes env W [.body b] (renderBody b.actions f) := ⟨Assembles.body env hf hunit⟩

end Builds

section Lines

variable {env : Env} {W : Assembly} [Assembles env W]

theorem builds_functionLines (m : Method) :
    Makes env W [.body (methodBody .function env.unit m)] (functionLines m) := by
  refine .ask fun _ _ => ?_
  refine .after fun _ => .after fun _ => .after fun _ => .after fun _ => .after fun _ =>
    .before (.indented (.before ?_))
  exact .body (b := methodBody .function env.unit m) {} Kind.Home.here

theorem builds_hookBodies (label : String) (declared : List String)
    {methods : List (SourceUnit × Method)} (h : ∀ m ∈ methods, W.plain.inside m.1) :
    Makes env W (methods.map (.body ∘ hookBody label)) (hookBodies label declared methods) := by
  induction methods generalizing declared with
  | nil => exact .plain (is_pure _)
  | cons m _ ih =>
    refine .after fun _ => (?_ : Builds env W [.body (hookBody label m)] _ _).next fun _ =>
      ih _ fun m' hm' => h m' (List.mem_cons_of_mem m hm')
    exact .body (b := hookBody label m) {} (h m List.mem_cons_self)

theorem builds_testLines (t : TestCase) :
    Makes env W [.body (testBody env.unit t)] (testLines t) := by
  have hbody : Makes env W [.body (testBody env.unit t)] (renderBody t.actions
      { unit := env.unit, mode := .test, page := env.profile.pageRef, body := "test:" ++
        t.name }) :=
    .body (b := testBody env.unit t) {} Kind.Home.here
  refine .ask fun _ _ => ?_
  refine .after fun _ => .after fun _ => .before (.indented ?_)
  split
  · exact .after fun _ => hbody.before
  · exact hbody.before

theorem builds_constructorBody {c : Method} {f : Frame}
    (hf : (constructorBody env.unit c).Opens f) :
    Makes env W [.body (constructorBody env.unit c)]
      (if !c.actions.isEmpty then do
        let _ ← renderBody c.actions f
        pure ()
      else pure ()) := by
  split
  · have hbody : Makes env W [.body (constructorBody env.unit c)] (renderBody c.actions f) :=
      .body hf (hf.unit ▸ Kind.Home.here)
    exact hbody.before
  · rename_i hempty
    rw [Bool.not_eq_true', Bool.not_eq_false, List.isEmpty_iff] at hempty
    have hactions : (constructorBody env.unit c).actions = [] := hempty
    have hidle : ∀ b ∈ [constructorBody env.unit c], ∃ f s r s', b.Opens f ∧
        (renderBody b.actions f).run env s = (.ok r, s') := by
      obtain ⟨r, s', hrun⟩ := exists_run_renderBody_nil (.inl hf.mode) env.start
      rw [List.forall_mem_singleton, hactions]
      exact ⟨f, env.start, r, s', hf, hrun⟩
    exact ⟨Assembles.empty () (by simpa using hactions) hidle⟩

theorem builds_constructorLines (base : Option SourceUnit) (memberPage : String) :
    Makes env W (.members ::
      (env.unit.methodsWithRole [.constructor]).head?.toList.map (.body ∘ constructorBody env.unit))
      (constructorLines base memberPage) := by
  refine .ask fun _ _ => ?_
  dsimp only
  generalize (env.unit.methodsWithRole [.constructor]).head? = first
  have hinit : ∀ {ps} {y : Render Unit}, Makes env W ps y → Makes env W (.members :: ps)
      (indented (do
        if base.isSome then line (fill env.profile.files.superInit [("page", env.profile.pageRef)])
        else line (fill env.profile.files.memberInit
          [("self", env.profile.phrases.selfRef), ("name", "page"), ("value", env.profile.pageRef)])
        memberValues
        y)) := by
    intro ps y hy
    have hmembers : Makes env W [.members] memberValues := ⟨Assembles.members env⟩
    refine .indented ?_
    split <;> exact .after fun _ => hmembers.next fun _ => hy
  cases first with
  | none =>
    have hnone := hinit (.plain (is_pure ()))
    split
    · exact .after fun _ => .after fun _ => .after fun _ => hnone.before
    · exact .after fun _ => .after fun _ => hnone.before
  | some c =>
    have hlines := hinit (builds_constructorBody (c := c) (f :=
      { unit := env.unit, mode := .page, page := memberPage,
        body := env.unit.simpleName ++ ".<init>"
        params := paramNames c }) {})
    split
    · exact .after fun _ => .after fun _ => .after fun _ => hlines.before
    · exact .after fun _ => .after fun _ => hlines.before

theorem builds_pageMethodLines (memberPage : String) (m : Method) :
    Makes env W [.body (methodBody .page env.unit m)] (pageMethodLines memberPage m) := by
  refine .ask fun _ _ => ?_
  refine .after fun _ => .after fun _ => .after fun _ => .after fun _ => .after fun _ =>
    .after fun _ => .before (.indented (.before ?_))
  exact .body (b := methodBody .page env.unit m) {} Kind.Home.here

end Lines

section Sections

variable {α : Type} {env : Env} {W : Assembly} [AssemblesFile env W] {ps : List UnitPart}

theorem Builds.group {x y : Render α} (hx : Builds env W ps x y) (level : Nat) :
    Builds env W ps (lineGroup level x) (lineGroup level y) :=
  ⟨AssemblesFile.group env level hx.out⟩

theorem Builds.fileSection {x y : Render Unit} (hx : Builds env W ps x y) (level : Nat) :
    Builds env W ps (fileSection level x) (fileSection level y) := (hx.group level).before

theorem Builds.chain {f g : List SourceUnit → Render α}
    (h : ∀ {chain}, env.model.superclassChain env.unit.unitName = .ok chain →
      Builds env W ps (f chain) (g chain)) :
    Builds env W (.superclasses :: ps) (superclasses >>= f) (superclasses >>= g) :=
  ⟨AssemblesFile.chain fun hchain => (h hchain).out⟩

instance (f : Code → Code) : Is env W.plain (modifyCode f) := ⟨AssemblesFile.code env f⟩

theorem builds_functionSections (methods : List Method) :
    Makes env W (methods.map (.body ∘ methodBody .function env.unit))
      (functionSections methods) := by
  induction methods with
  | nil => exact .plain (is_pure _)
  | cons m _ ih => exact ((builds_functionLines m).fileSection 0).next fun _ => ih.before

section Hooks

variable (hchain : ∃ chain, env.model.superclassChain env.unit.unitName = .ok chain)
include hchain

variable {methods setups teardowns : List (SourceUnit × Method)}

theorem builds_emptyHooks {label : String}
    (h : (methods.all fun m => m.2.actions.isEmpty) = true) (a : α) :
    Makes env W (methods.map (.body ∘ hookBody label)) (pure a) := by
  have hempty : ∀ b ∈ methods.map (hookBody label), b.actions = [] := by
    intro b hb
    obtain ⟨m, hm, rfl⟩ := List.mem_map.mp hb
    exact List.isEmpty_iff.mp (List.all_eq_true.mp h m hm)
  have hidle : ∀ b ∈ methods.map (hookBody label), ∃ f s r s', b.Opens f ∧
      (renderBody b.actions f).run env s = (.ok r, s') := by
    intro b hb
    rw [hempty b hb]
    obtain ⟨m, -, rfl⟩ := List.mem_map.mp hb
    obtain ⟨r, s', hrun⟩ := exists_run_renderBody_nil (.inr hchain) env.start
      (f := { unit := m.1, mode := .test, page := "", body := (hookBody label m).name })
    exact ⟨_, env.start, r, s', {}, hrun⟩
  rw [← List.map_map]
  exact ⟨Assembles.empty a hempty hidle⟩

theorem builds_hookBlock (template label : String) (level : Nat)
    (h : ∀ m ∈ methods, W.plain.inside m.1) :
    Makes env W (methods.map (.body ∘ hookBody label))
      (hookBlock template label methods level) := by
  unfold hookBlock
  split
  · exact builds_emptyHooks hchain ‹_› none
  · refine .before (.group ?_ level)
    exact .after fun _ => .after fun _ => .before (builds_hookBodies label [] h).indented

theorem builds_hookFixture (level : Nat)
    (hsetups : ∀ m ∈ setups, W.plain.inside m.1)
    (hteardowns : ∀ m ∈ teardowns, W.plain.inside m.1) :
    Makes env W (setups.map (.body ∘ hookBody "setup") ++
      teardowns.map (.body ∘ hookBody "teardown")) (hookFixture setups teardowns level) := by
  refine .after fun _ => ?_
  split
  · rename_i hempty
    rw [List.all_append, Bool.and_eq_true] at hempty
    exact (builds_emptyHooks hchain hempty.1 ()).next fun _ =>
      builds_emptyHooks hchain hempty.2 none
  · refine .before (.group ?_ level)
    exact .after fun _ => .after fun _ =>
      (builds_hookBodies "setup" [] hsetups).indented.next fun _ =>
      .after fun _ =>
        .before (.indented (.after fun _ => builds_hookBodies "teardown" [] hteardowns))

theorem builds_hookBlocks (level : Nat)
    (hsetups : ∀ m ∈ setups, W.plain.inside m.1)
    (hteardowns : ∀ m ∈ teardowns, W.plain.inside m.1) :
    Makes env W (setups.map (.body ∘ hookBody "setup") ++
      teardowns.map (.body ∘ hookBody "teardown")) (hookBlocks setups teardowns level) := by
  refine .after fun _ => ?_
  dsimp only
  split
  · exact (builds_hookBlock hchain _ _ level hsetups).next fun _ =>
      (builds_hookBlock hchain _ _ level hteardowns).before
  · exact (builds_hookFixture hchain level hsetups hteardowns).before

end Hooks

theorem builds_testBlocks (level : Nat) (tests : List TestCase) :
    Makes env W (tests.map (.body ∘ testBody env.unit)) (testBlocks level tests) := by
  induction tests with
  | nil => exact .plain (is_pure _)
  | cons t _ ih => exact ((builds_testLines t).fileSection level).next fun _ => ih.before

theorem builds_suiteSection : Makes env W (suiteParts env) suiteSection := by
  unfold suiteSection
  refine .ask fun _ _ => Builds.chain fun {chain} hchain => ?_
  have hinside : ∀ u ∈ unitChain env, W.plain.inside u := by
    rw [← unitChain_eq hchain]
    exact List.forall_mem_cons.mpr ⟨Kind.Home.here, AssemblesFile.inherited hchain⟩
  have hhooks : ∀ {units roles}, (∀ u ∈ units, u ∈ unitChain env) →
      ∀ m ∈ lifecycle units roles, W.plain.inside m.1 := by
    intro units roles hunits m hm
    obtain ⟨u, hu, hm⟩ := List.mem_flatMap.mp hm
    obtain ⟨_, -, rfl⟩ := List.mem_map.mp hm
    exact hinside u (hunits u hu)
  have hrest : ∀ level (f : List Code → List Code → Render Code),
      (∀ hooks tests, Makes env W [] (f hooks tests)) →
      Makes env W ((namedSuiteBodies env).map .body)
        (hookBlocks (lifecycle (unitChain env).reverse [.setupAll, .setup])
          (lifecycle (unitChain env) [.teardown, .teardownAll]) level >>= fun hooks =>
          testBlocks level env.unit.tests >>= fun tests => f hooks tests) := by
    intro level f hf
    unfold namedSuiteBodies
    rw [List.map_append, List.map_append, List.map_map, List.map_map, List.map_map]
    exact (builds_hookBlocks ⟨chain, hchain⟩ level (hhooks fun u hu => List.mem_reverse.mp hu)
      (hhooks fun u hu => hu)).next fun _ => (builds_testBlocks level _).last fun _ => hf _ _
  dsimp only
  rw [unitChain_eq hchain]
  split
  · exact .after fun _ => hrest _ _ fun _ _ => .fileSection (.plain inferInstance) 0
  · exact hrest _ _ fun _ _ => .fileSection (.plain inferInstance) 0

theorem builds_constantSections : Makes env W [.constants] constantSections :=
  ⟨AssemblesFile.constants env⟩

theorem builds_testSections : Makes env W (.constants ::
      ((env.unit.methodsWithRole [.helper]).map (.body ∘ methodBody .function env.unit) ++
        if env.unit.tests.isEmpty then [] else suiteParts env)) testSections := by
  refine .ask fun _ _ => builds_constantSections.next fun _ =>
    (builds_functionSections _).next fun _ =>
    .after fun _ => ?_
  split
  · exact .plain (is_pure _)
  · exact builds_suiteSection.before

theorem builds_classSection : Makes env W (.superclasses :: .members ::
      ((env.unit.methodsWithRole [.constructor]).head?.toList.map
        (.body ∘ constructorBody env.unit) ++
        (env.unit.methodsWithRole [.pageMethod]).map (.body ∘ methodBody .page env.unit)))
      classSection := by
  refine .ask fun _ _ => Builds.chain fun {chain} hchain => ?_
  have hbase : Is env W.plain (chain.head?.forM needClass) := by
    cases hhead : chain.head? with
    | none => exact is_pure _
    | some base => exact akin_needClass ⟨.refl base,
        mem_units_of_superclassChain hchain (List.mem_of_mem_head? hhead)⟩
  refine .after fun _ => .last (.fileSection (.after fun _ => ?_) 1) fun _ =>
    .fileSection (.plain inferInstance) 0
  exact (builds_constructorLines chain.head? _).next fun _ => .forM (builds_pageMethodLines _)

/-- **All sections of a unit are written from its parts.** -/
theorem builds_unitSections : Makes env W (unitParts env) unitSections := by
  unfold unitSections unitParts
  refine .ask fun _ _ => ?_
  cases env.unit.kind with
  | testClass | suite => exact builds_testSections.before
  | pageObject => exact .before (builds_classSection.next fun _ => builds_constantSections.before)
  | utilityModule | support =>
    exact .before (.ask fun _ _ => builds_constantSections.next fun _ =>
      .before (builds_functionSections _))

end Sections

/-! ### Kinds that do not ask what is written -/

/-- Steps of the kind write whole files. -/
class Kind.Groups (env : Env) (K : Kind) : Prop extends Kind.Splices env K where
  ofLineGroup {α : Type} {x y : Render α} (level : Nat) : K.Holds x y →
    K.Holds (lineGroup level x) (lineGroup level y)
  ofModifyCode (f : Code → Code) : K.Holds (modifyCode f) (modifyCode f)
  inherited {chain : List SourceUnit} : env.model.superclassChain env.unit.unitName = .ok chain →
    ∀ u ∈ chain, K.inside u

/-- A kind of steps, whatever they write. -/
abbrev Kind.assembly (K : Kind) : Assembly where
  plain := K
  Holds _ _ x y := K.Holds x y

section Kinds

variable {env : Env} {K : Kind} [Kind.Groups env K]

instance (level : Nat) (x : Render Unit) [hx : Is env K x] :
    Is env K (fileSection level x) := by
  have : Is env K (lineGroup level x) := ⟨Kind.Groups.ofLineGroup env level hx.out⟩
  unfold fileSection; infer_instance

instance is_constantSections : Is env K constantSections := by
  unfold constantSections; infer_instance

instance : AssemblesFile env K.assembly where
  plain h := h
  next hx hf := @Akin.out env _ _ _ _ (.after ⟨hx⟩ fun _ => ⟨hf _⟩)
  ask h := @Akin.out env _ _ _ _ (.ask fun m hm => ⟨h m hm⟩)
  indented hx := Kind.Lays.ofIndented env hx
  body _ hunit := @Akin.out env _ _ _ _ (is_renderBody _ hunit)
  empty a _ _ := Kind.Chains.ofPure env a
  members := @Akin.out env _ _ _ _ is_memberValues
  group level hx := Kind.Groups.ofLineGroup env level hx
  code := Kind.Groups.ofModifyCode env
  constants := @Akin.out env _ _ _ _ is_constantSections
  chain h := (Akin.after is_superclasses fun hrun => ⟨h (superclassChain_of_run hrun)⟩).out
  inherited := Kind.Groups.inherited

instance : Is env K unitSections :=
  ⟨(builds_unitSections : Makes env K.assembly (unitParts env) unitSections).out⟩

end Kinds

end TestMigration.Rendering
