import TestMigration.Proofs.Rendering.SourceOrder
/-!
# The order of the methods around a test

In the source, what a class sets up once runs before what is set up for each test, a superclass sets
up before its subclasses and tears down after them, and an overridden method does not run at all. In
the target all setup methods become one hook, and all teardown methods another, collected unit by
unit, each unit in the order of its source.

So a hook is in the order of the source within each kind of method, but the kinds are only apart if
they are so in each unit and no unit brings the earlier kind too late; and an overridden method is
rendered nevertheless (`hooks_ordered_iff`).
-/

namespace TestMigration.Rendering

open TestMigration.Action Text Profile
open scoped List

/-! ### What the source says -/

def Staged (early late : MethodRole) (methods : List (SourceUnit × Method)) : Prop :=
  methods.Pairwise fun a b => ¬(a.2.role = late ∧ b.2.role = early)

/-- The methods with a role, unit by unit. -/
def unitByUnit (units : List SourceUnit) (r : MethodRole) : List (SourceUnit × Method) :=
  units.flatMap fun u => (u.methods.filter (·.role == r)).map (u, ·)

/-- A method takes the place of a method of a superclass. -/
def Overrides (m' m : Method) : Prop := m'.name = m.name ∧ m'.arity = m.arity

instance (m' m : Method) : Decidable (Overrides m' m) := inferInstanceAs (Decidable (_ ∧ _))

/-- The methods of two hooks are those that would run in the source, in this order. The units are
the test class and its superclasses, the nearest first. -/
structure LifecycleOrder (units : List SourceUnit) (setups teardowns : List (SourceUnit × Method)) :
    Prop where
  setupAllFirst : Staged .setupAll .setup setups
  teardownAllLast : Staged .teardown .teardownAll teardowns
  superclassesFirst : ∀ r ∈ [MethodRole.setupAll, .setup],
    setups.filter (·.2.role == r) = unitByUnit units.reverse r
  subclassesFirst : ∀ r ∈ [MethodRole.teardown, .teardownAll],
    teardowns.filter (·.2.role == r) = unitByUnit units r
  /-- No method is rendered that a nearer unit overrides. -/
  overriding : ∀ {near far : SourceUnit}, [near, far] <+ units →
    ∀ m, (far, m) ∈ setups ++ teardowns →
    ∀ m' ∈ near.methods, ¬Overrides m' m

def isLifecycle (m : Method) : Bool :=
  [MethodRole.setupAll, .setup, .teardown, .teardownAll].contains m.role

/-- A test class and its superclasses, the nearest first, from which the order of the source can be
had one by one: in each and from one to the next the two kinds of setup methods, and those of
teardown methods, are apart, and no nearer unit overrides a method. -/
def Orderly (units : List SourceUnit) : Prop :=
  (∀ u ∈ units, u.methods.Pairwise fun m m' =>
    ¬(m.role = .setup ∧ m'.role = .setupAll) ∧ ¬(m.role = .teardownAll ∧ m'.role = .teardown)) ∧
  units.Pairwise fun near far => ∀ m' ∈ near.methods, ∀ m ∈ far.methods,
    ¬(m.role = .setup ∧ m'.role = .setupAll) ∧ ¬(m'.role = .teardownAll ∧ m.role = .teardown) ∧
      (isLifecycle m → ¬Overrides m' m)

instance (units : List SourceUnit) : Decidable (Orderly units) :=
  inferInstanceAs (Decidable (_ ∧ _))

/-! ### Collecting unit by unit -/

section Lifecycle

variable {units : List SourceUnit} {roles : List MethodRole} {early late r : MethodRole}

theorem mem_lifecycle {u : SourceUnit} {m : Method} :
    (u, m) ∈ lifecycle units roles ↔ u ∈ units ∧ m ∈ u.methods ∧ m.role ∈ roles := by
  simp only [lifecycle, SourceUnit.methodsWithRole, List.mem_flatMap, List.mem_map, List.mem_filter,
    List.contains_iff_mem, Prod.mk.injEq]
  constructor
  · rintro ⟨v, hv, _, hm, rfl, rfl⟩
    exact ⟨hv, hm⟩
  · rintro ⟨hu, hm⟩
    exact ⟨u, hu, m, hm, rfl, rfl⟩

/-- Each kind of method is in the order of the units. -/
theorem filter_lifecycle (hr : r ∈ roles) :
    (lifecycle units roles).filter (·.2.role == r) = unitByUnit units r := by
  unfold lifecycle unitByUnit SourceUnit.methodsWithRole
  rw [List.filter_flatMap]
  refine List.flatMap_congr fun u _ => ?_
  rw [List.filter_map, List.filter_filter]
  refine congrArg _ (List.filter_congr fun m _ => ?_)
  by_cases hrole : m.role = r
  · simp [hrole, hr]
  · simp [hrole]

/-- **The kinds are apart exactly if they are so in each unit and from one to the next.** -/
theorem staged_lifecycle_iff : Staged early late (lifecycle units [early, late]) ↔
      (∀ u ∈ units, u.methods.Pairwise fun m m' => ¬(m.role = late ∧ m'.role = early)) ∧
        units.Pairwise fun u v => ∀ m ∈ u.methods, ∀ m' ∈ v.methods,
          ¬(m.role = late ∧ m'.role = early) := by
  unfold Staged lifecycle SourceUnit.methodsWithRole
  rw [List.pairwise_flatMap]
  have hroles : ∀ {m m' : Method}, m.role = late → m'.role = early →
      [early, late].contains m.role = true ∧ [early, late].contains m'.role = true := by
    intro m m' hm hm'
    simp [hm, hm']
  refine and_congr (forall₂_congr fun u _ => ?_) (List.Pairwise.iff fun u v => ?_)
  · rw [List.pairwise_map, List.pairwise_filter]
    refine List.Pairwise.iff fun m m' => ⟨fun h hboth => ?_, fun h _ _ => h⟩
    exact h (hroles hboth.1 hboth.2).1 (hroles hboth.1 hboth.2).2 hboth
  · simp only [List.forall_mem_map, List.mem_filter]
    refine ⟨fun h m hm m' hm' hboth => ?_, fun h m hm m' hm' => h m hm.1 m' hm'.1⟩
    exact h m ⟨hm, (hroles hboth.1 hboth.2).1⟩ m' ⟨hm', (hroles hboth.1 hboth.2).2⟩ hboth

theorem mem_hooks_iff {u : SourceUnit} (hu : u ∈ units) {m : Method} :
    (u, m) ∈ lifecycle units.reverse [.setupAll, .setup] ++
      lifecycle units [.teardown, .teardownAll] ↔
      m ∈ u.methods ∧ isLifecycle m := by
  simp only [List.mem_append, mem_lifecycle, List.mem_reverse, hu, true_and, isLifecycle,
    List.contains_iff_mem]
  rw [← and_or_left, ← List.mem_append]
  rfl

/-- Nothing is left out, so no method is overridden exactly if no nearer unit declares it. -/
theorem overriding_iff : (∀ {near far : SourceUnit}, [near, far] <+ units → ∀ m,
      (far, m) ∈ lifecycle units.reverse [.setupAll, .setup] ++
        lifecycle units [.teardown, .teardownAll] →
        ∀ m' ∈ near.methods, ¬Overrides m' m) ↔
    units.Pairwise fun near far => ∀ m' ∈ near.methods, ∀ m ∈ far.methods,
      isLifecycle m → ¬Overrides m' m := by
  rw [List.pairwise_iff_forall_sublist]
  refine forall₃_congr fun near far hpair => ?_
  simp only [mem_hooks_iff (hpair.subset (by simp) : far ∈ units), and_imp]
  exact ⟨fun h m' hm' m hm hrole => h m hm hrole m' hm', fun h m hm hrole m' hm' =>
    h m' hm' m hm hrole⟩

/-- **The hooks are in the order of the source exactly if the units are orderly.** -/
theorem lifecycleOrder_iff (units : List SourceUnit) :
    LifecycleOrder units (lifecycle units.reverse [.setupAll, .setup])
      (lifecycle units [.teardown, .teardownAll]) ↔ Orderly units := by
  have hparts : Orderly units ↔
    (Staged .setupAll .setup (lifecycle units.reverse [.setupAll, .setup]) ∧
        Staged .teardown .teardownAll (lifecycle units [.teardown, .teardownAll])) ∧
      units.Pairwise fun near far => ∀ m' ∈ near.methods, ∀ m ∈ far.methods,
        isLifecycle m → ¬Overrides m' m := by
    have hturned : (units.reverse.Pairwise fun u v => ∀ m ∈ u.methods, ∀ m' ∈ v.methods,
          ¬(m.role = .setup ∧ m'.role = .setupAll)) ↔
        units.Pairwise fun near far => ∀ m' ∈ near.methods, ∀ m ∈ far.methods,
          ¬(m.role = .setup ∧ m'.role = .setupAll) := by
      rw [List.pairwise_reverse]
      exact List.Pairwise.iff fun _ _ =>
        ⟨fun h m' hm' m hm => h m hm m' hm', fun h m hm m' hm' => h m' hm' m hm⟩
    rw [staged_lifecycle_iff, staged_lifecycle_iff]
    unfold Orderly
    simp only [List.pairwise_and_iff, List.mem_reverse, forall_and]
    tauto
  rw [hparts, ← overriding_iff]
  constructor
  · intro h
    exact ⟨⟨h.setupAllFirst, h.teardownAllLast⟩, h.overriding⟩
  · rintro ⟨⟨hsetups, hteardowns⟩, hover⟩
    exact ⟨hsetups, hteardowns, fun r hr => filter_lifecycle hr, fun r hr => filter_lifecycle hr,
      hover⟩

end Lifecycle

/-! ### The main result -/

/-- **The hooks run what the source would run, and in its order, exactly if the units are orderly.**
For a suite rendered with a profile that comes with the program, the text holds the fragments of the
setup methods and then those of the teardown methods, in the order in which they are collected,
between those of the helpers and those of the tests. -/
theorem hooks_ordered_iff {env : Env} (hprofile : env.profile ∈ builtins)
    (hkind : env.unit.kind = .testClass ∨ env.unit.kind = .suite) (htests : env.unit.tests ≠ [])
    {path text : String} {s : Session} (h : renderTo env path = .ok (.ok text, s)) :
    let setups := lifecycle (unitChain env).reverse [.setupAll, .setup]
    let teardowns := lifecycle (unitChain env) [.teardown, .teardownAll]
    Placed text.toList 0 ((wholeFragments s.trace).map String.toList) ∧ marksOf s.trace =
        marksOver env ((env.unit.methodsWithRole [.helper]).map (methodBody .function env.unit)) ++
          marksOver env (setups.map (hookBody "setup")) ++
          marksOver env (teardowns.map (hookBody "teardown")) ++
          marksOver env (env.unit.tests.map (testBody env.unit)) ∧
      (LifecycleOrder (unitChain env) setups teardowns ↔ Orderly (unitChain env)) := by
  obtain ⟨hplaced, hmarks⟩ := exists_placed_of_mem_builtins hprofile h
  refine ⟨hplaced, ?_, lifecycleOrder_iff _⟩
  have hbodies : namedBodies env =
    (env.unit.methodsWithRole [.helper]).map (methodBody .function env.unit) ++
        namedSuiteBodies env := by
    have hsome : env.unit.tests.isEmpty = false := by simpa using htests
    rcases hkind with hkind | hkind <;> simp [namedBodies, hkind, hsome]
  rw [hmarks, unitMarks, hbodies, namedSuiteBodies]
  simp only [marksOver_append, List.append_assoc]

def opener (name : String) (role : MethodRole) (line : Nat) : Method where
  name
  params := []
  returnType := "void"
  role
  actions := [.navigate (.literal { value := .text name }) ⟨"F.java", line, line⟩]
  provenance := ⟨"F.java", line, line⟩

def preparing : SourceUnit :=
  { bareUnit "Base.java" "Base" .testClass with
    methods := [opener "prepare" .setupAll 3, opener "open" .setup 4, opener "close" .teardown 5,
      opener "finish" .teardownAll 6] }

def prepared (setup : Method) : SourceUnit :=
  { bareUnit "F.java" "FlowTest" .testClass with
    superclass := "Base"
    methods := [setup, opener "leave" .teardown 5]
    tests := [{ name := "flow", provenance := ⟨"F.java", 7, 8⟩
                actions := [.navigate (.literal { value := .text "flow" }) ⟨"F.java", 8, 8⟩] }] }

def preparedEnv (setup : Method) : Env where
  model := Linking.linkedModel [prepared setup, preparing] []
  profile := playwrightTs
  strategy := .call
  unit := prepared setup

/-- The suite is rendered; its trace has the setup methods in the order of the units and the
teardown methods in the other order. -/
def RendersAll (setup : Method) : Prop :=
  ∃ text s, renderTo (preparedEnv setup) "FlowTest.spec.ts" = .ok (.ok text, s) ∧
    s.trace.map (·.body) =
      ["setup:Base.prepare", "setup:Base.open", "setup:FlowTest." ++ setup.name,
      "teardown:FlowTest.leave", "teardown:Base.close", "teardown:Base.finish", "test:flow"]

theorem rendersAll_of_any {setup : Method}
    (h : (renderTo (preparedEnv setup) "FlowTest.spec.ts").toOption.any (fun r => r.1.isOk &&
      r.2.trace.map (·.body) == ["setup:Base.prepare", "setup:Base.open",
        "setup:FlowTest." ++ setup.name,
        "teardown:FlowTest.leave", "teardown:Base.close", "teardown:Base.finish", "test:flow"]) =
          true) :
    RendersAll setup := by
  obtain ⟨_ | text, s, hrun, hbodies⟩ := exists_of_any h
  · cases hbodies
  · exact ⟨text, s, hrun, eq_of_beq (Bool.and_eq_true_iff.mp hbodies).2⟩

/-- The suite is rendered as it would run in the source. -/
def Ordered (setup : Method) : Prop :=
  let units := unitChain (preparedEnv setup)
  LifecycleOrder units (lifecycle units.reverse [.setupAll, .setup])
    (lifecycle units [.teardown, .teardownAll])

/-- A setup method for each test, behind those of the superclass. -/
theorem hooks_ordered_iff_login :
    RendersAll (opener "login" .setup 3) ∧ Ordered (opener "login" .setup 3) := by
  have hrun : RendersAll (opener "login" .setup 3) := rendersAll_of_any (by decide +kernel)
  obtain ⟨_, s, hrender, -⟩ := id hrun
  have hprofile : (preparedEnv (opener "login" .setup 3)).profile ∈ builtins :=
    List.mem_cons_of_mem _ (List.mem_singleton.mpr rfl)
  obtain ⟨-, -, hordered⟩ := hooks_ordered_iff hprofile (.inl rfl) (by simp [preparedEnv, prepared])
    hrender
  exact ⟨hrun, hordered.mpr (by decide +kernel)⟩

/-- **The order of the source can be lost.** In the first suite, a method that runs once for the
class comes behind one that the superclass runs for each test. In the second, a method and one that
overrides it are both rendered. -/
theorem not_lifecycleOrder :
    (RendersAll (opener "login" .setupAll 3) ∧ ¬Ordered (opener "login" .setupAll 3)) ∧
      RendersAll (opener "open" .setup 3) ∧ ¬Ordered (opener "open" .setup 3) := by
  refine ⟨⟨rendersAll_of_any (by decide +kernel), ?_⟩, rendersAll_of_any (by decide +kernel), ?_⟩
  · exact (lifecycleOrder_iff _).not.mpr (by decide +kernel)
  · exact (lifecycleOrder_iff _).not.mpr (by decide +kernel)

end TestMigration.Rendering
