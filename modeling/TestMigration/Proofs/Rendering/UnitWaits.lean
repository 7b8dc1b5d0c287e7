import TestMigration.Profile.Builtin
import TestMigration.Proofs.Linking.Calls
import TestMigration.Proofs.Rendering.UnitKinds
import TestMigration.Proofs.Rendering.Waits
/-!
# The waits of a unit

A unit that passes its checks has as many fragments of waits as rendering has come across waits, and
those are what its bodies have, less what they lose. So the file of a unit is as short of waits as
its bodies lose (`wait_entries_add_lostWaits`), and no wait is missing exactly if no branch becomes
a comment together with a wait.

Which bodies are written to the file of a unit is listed by `writtenBodies`. Waits of bodies written
one after the other add up (`Written`), and so do those of a whole file (`assembles_counting`).
-/

namespace TestMigration.Rendering

open TestMigration.Action Text Profile

/-! ### The bodies of a unit -/

def methodBodies (mode : Mode) (u : SourceUnit) (methods : List Method) :
    List (Scope × List Action) :=
  methods.map fun m => ({ unit := u, mode }, m.actions)

def hookScopes (methods : List (SourceUnit × Method)) : List (Scope × List Action) :=
  methods.map fun m => ({ unit := m.1, mode := .test }, m.2.actions)

/-- The bodies of a suite: those before each test, those after it, and the tests. -/
def suiteBodies (env : Env) : List (Scope × List Action) :=
  hookScopes (lifecycle (unitChain env).reverse [.setupAll, .setup]) ++
    hookScopes (lifecycle (unitChain env) [.teardown, .teardownAll]) ++
    env.unit.tests.map fun t => ({ unit := env.unit, mode := .test }, t.actions)

def writtenBodies (env : Env) : List (Scope × List Action) :=
  match env.unit.kind with
  | .testClass | .suite =>
    methodBodies .function env.unit (env.unit.methodsWithRole [.helper]) ++
      if env.unit.tests.isEmpty then [] else suiteBodies env
  | .pageObject =>
    methodBodies .page env.unit (env.unit.methodsWithRole [.constructor]).head?.toList ++
      methodBodies .page env.unit (env.unit.methodsWithRole [.pageMethod])
  | .utilityModule | .support =>
    methodBodies .function env.unit (env.unit.methods.filter (·.role != .constructor))

def waitsOver : List (Scope × List Action) → Nat
  | [] => 0
  | b :: rest => count isWait b.2 + waitsOver rest

/-- The number of waits that some bodies lose. -/
def lostOver (env : Env) : List (Scope × List Action) → Nat
  | [] => 0
  | b :: rest => (lostIn env b.1 b.2).1 + lostOver env rest

/-- The waits in the bodies of a unit. -/
def unitWaits (env : Env) : Nat := waitsOver (writtenBodies env)

/-- The waits that are not come across. -/
def lostWaits (env : Env) : Nat := lostOver env (writtenBodies env)

theorem waitsOver_append (bs bs' : List (Scope × List Action)) :
    waitsOver (bs ++ bs') = waitsOver bs + waitsOver bs' := by
  induction bs with
  | nil => simp [waitsOver]
  | cons b _ ih => rw [List.cons_append, waitsOver, waitsOver, ih, Nat.add_assoc]

theorem lostOver_append (env : Env) (bs bs' : List (Scope × List Action)) :
    lostOver env (bs ++ bs') = lostOver env bs + lostOver env bs' := by
  induction bs with
  | nil => simp [lostOver]
  | cons b _ ih => rw [List.cons_append, lostOver, lostOver, ih, Nat.add_assoc]

/-! ### What is written adds up -/

/-- Some bodies have been written: all their waits but the lost ones have been come across, and new
fragments of waits are no more than new waits. -/
structure Written (env : Env) (bodies : List (Scope × List Action)) (s s' : State) : Prop where
  waits : s'.session.waits + lostOver env bodies = s.session.waits + waitsOver bodies
  bounded : Bounded s none s'

section Written

variable {env : Env} {bodies bodies' : List (Scope × List Action)}
variable {s s' : State}

theorem Written.trans {s'' : State} (h : Written env bodies s s')
    (h' : Written env bodies' s' s'') : Written env (bodies ++ bodies') s s'' where
  waits := by
    have hwaits := h.waits
    have hwaits' := h'.waits
    rw [waitsOver_append, lostOver_append]
    omega
  bounded := Composable.trans h.bounded h'.bounded

theorem Steady.written (h : Steady s none s') : Written env [] s s' :=
  ⟨by rw [h.waits]; rfl, h.bounded⟩

theorem Written.of_empty {bodies : List NamedBody} (h : ∀ b ∈ bodies, b.actions = []) (s : State) :
    Written env (bodies.map fun b => (b.scope, b.actions)) s s := by
  induction bodies with
  | nil => exact (Composable.refl s : Steady s none s).written
  | cons b _ ih =>
    have hempty : Written env [(b.scope, b.actions)] s s := by
      rw [h b List.mem_cons_self]
      exact ⟨by simp [waitsOver, lostOver, lostIn, count, all], Composable.refl s⟩
    exact hempty.trans (ih fun b' hb' => h b' (List.mem_cons_of_mem b hb'))

end Written

/-! ### The functions that write a file -/

section File

variable {env : Env}
variable {s : Session} {s' : State} {path text : String}

theorem written_renderBody (henv : env.strategy ≠ .inline) {b : NamedBody} {f : Frame}
    (hf : b.Opens f)
    {s : State} {declared : List String}
    (hrun : (renderBody b.actions f).run env s = (.ok declared, s')) :
    Written env [(b.scope, b.actions)] s s' := by
  refine ⟨?_, (inferInstance : Keeps Bounded (renderBody b.actions f)).of_run hrun⟩
  obtain ⟨_, s₁, s₂, hobjects, hbody, -, rfl⟩ := exists_of_run_renderBody hrun
  have hwaits := (Keeps.of_run (R := Steady) hobjects).waits
  have hcounted : s₂.session.waits + (lostIn env b.scope b.actions).1 =
      s₁.session.waits + count isWait b.actions :=
    (Ledger.part_body (waitListing henv _) b.actions ⟨hf.fits.unit, hf.fits.mode,
      hf.fits.bound⟩ hbody).tells
  simpa [lostOver, waitsOver, hwaits] using hcounted

abbrev Counting (env : Env) : Assembly where
  plain := Keeping env Steady
  Holds parts _ x _ := ∀ {s a s'}, x.run env s = (.ok a, s') →
    Written env ((parts.filterMap UnitPart.body?).map fun b => (b.scope, b.actions)) s s'

theorem assembles_counting (henv : env.strategy ≠ .inline) : AssemblesFile env (Counting env) where
  plain h s _ _ hrun := by
    have := h s
    rw [hrun] at this
    exact Steady.written this
  next hx hf _ _ _ hrun := by
    obtain ⟨a, s', hfirst, hrest⟩ := exists_of_run_bind hrun
    rw [List.filterMap_append, List.map_append]
    exact (hx hfirst).trans (hf a hrest)
  ask h _ _ _ hrun := h _ (.refl _) hrun
  indented := by
    intro _ x _ hx s a s' hrun
    obtain ⟨s₁, hinner, rfl⟩ := exists_of_run_indented hrun
    have h := hx hinner
    exact ⟨h.waits, h.bounded⟩
  body hf _ _ _ _ hrun := written_renderBody henv hf hrun
  empty _ h _ _ _ _ hrun := by
    cases hrun
    rw [filterMap_map_body]
    exact .of_empty h _
  members hrun := Steady.written (Keeps.of_run hrun)
  group level hx _ _ _ hrun := by
    obtain ⟨_, s₁, hstart, -, hinner, -, hsession⟩ := exists_of_run_lineGroup hrun
    have h := hx hinner
    have hwaits := h.waits
    have hbounded := h.bounded
    rw [hstart, ← hsession] at hwaits
    rw [Bounded, hstart, ← hsession] at hbounded
    exact ⟨hwaits, hbounded⟩
  code _ := Keeps.out env
  constants hrun := Steady.written (Keeps.of_run hrun)
  chain h _ _ _ hrun := by
    obtain ⟨chain, s', hchain, hrest⟩ := exists_of_run_bind hrun
    exact (Steady.written (Keeps.of_run hchain)).trans (h (superclassChain_of_run hchain) hrest)
  inherited _ _ _ := trivial

theorem writtenBodies_eq (env : Env) :
    writtenBodies env = (namedBodies env).map fun b => (b.scope, b.actions) := by
  unfold writtenBodies namedBodies
  cases env.unit.kind with
  | testClass | suite =>
    dsimp only
    split <;> simp only [namedSuiteBodies, List.map_append, List.map_map] <;> rfl
  | pageObject | utilityModule | support =>
    simp only [List.map_append, List.map_map]
    rfl

theorem written_fileText (henv : env.strategy ≠ .inline) {s : State}
    (hrun : (fileText path).run env s = (.ok text, s')) : Written env (writtenBodies env) s s' := by
  have := assembles_counting henv
  have hfile : Builds env (Counting env) (unitParts env) (fileText path) (fileText path) := by
    exact .ask fun _ _ => builds_unitSections.before
  have h := hfile.out hrun
  rwa [filterMap_unitParts, ← writtenBodies_eq] at h

theorem exists_runGates_iff :
    (∃ results, runGates env text s = .ok results) ↔ (waitGate text s).passed = true ∧
      (locatorGate env.profile text s).passed = true ∧
      (orderGate env.unit.unitName text s).passed = true := by
  have hresults : (∃ results, runGates env text s = .ok results) ↔
      (gates env text s).find? (!·.passed) = none := by
    unfold runGates
    dsimp only
    split <;> simp_all
  rw [hresults]
  simp [gates]

/-- A file that passes its checks has a fragment for each wait come across. -/
theorem waits_le_of_runGates {results : List GateResult}
    (h : runGates env text s = .ok results) : s.waits ≤ waitEntries s := by
  obtain ⟨hpassed, -, -⟩ := exists_runGates_iff.mp ⟨results, h⟩
  rw [waitGate, List.partition_eq_filter_filter] at hpassed
  rw [eq_of_beq hpassed, waitEntries, List.countP_eq_length_filter]
  exact List.length_filter_le _ _

theorem exists_final_of_renderTo (h : renderTo env path = .ok (.ok text, s)) :
    ∃ final, final.session = s ∧ (fileText path).run env env.start = (.ok text, final) := by
  obtain ⟨final, hfinal, ⟨_, htext, hrun⟩ | ⟨r, hrefused, -⟩⟩ := renderTo_cases h
  · cases htext
    exact ⟨final, hfinal, hrun⟩
  · cases hrefused

theorem exists_of_renderTo (h : renderTo env path = .ok (.ok text, s)) :
    ∃ start final, start.session = {} ∧ final.session = s ∧
      (fileText path).run env start = (.ok text, final) := by
  obtain ⟨final, hfinal, hrun⟩ := exists_final_of_renderTo h
  exact ⟨env.start, final, rfl, hfinal, hrun⟩

theorem exists_of_renderUnit {out : OutputUnit} (h : renderUnit env = .ok (.ok out, s)) :
    ∃ path text results, renderTo env path = .ok (.ok text, s) ∧ runGates env text s =
      .ok results := by
  obtain ⟨path, -, ⟨r, herror, -⟩ | ⟨text, htext, ⟨r, herror, -⟩ | ⟨results, hgates, -⟩⟩⟩ :=
    renderUnit_cases h
  · cases herror
  · cases herror
  · exact ⟨path, text, results, htext, hgates⟩

end File

/-! ### The main result -/

/-- **A file is as short of waits as its bodies lose.** If a unit is written with calls as calls,
and passes all checks, the fragments of waits in its trace and the lost waits are together all waits
of its bodies. So there is a fragment for each wait exactly if none is lost. -/
theorem wait_entries_add_lostWaits {env : Env} (henv : env.strategy = .call) {out : OutputUnit}
    {s : Session} (h : renderUnit env = .ok (.ok out, s)) :
    waitEntries s + lostWaits env = unitWaits env ∧
      (waitEntries s = unitWaits env ↔ lostWaits env = 0) := by
  obtain ⟨_, _, _, hrendered, hgates⟩ := exists_of_renderUnit h
  obtain ⟨_, _, hstart, rfl, hrun⟩ := exists_of_renderTo hrendered
  -- The fragments are bounded by the waits that were come across, and the check of the file bounds
  -- them from the other side.
  have hwritten := written_fileText (by simp [henv]) hrun
  have hwaits := hwritten.waits
  have hbounded := hwritten.bounded
  have hpassed := waits_le_of_runGates hgates
  have hempty : waitEntries ({} : Session) = 0 := rfl
  rw [Bounded, hstart] at hbounded
  rw [hstart] at hwaits
  change _ + lostWaits env = 0 + unitWaits env at hwaits
  omega

/-- A test that waits inside of two branches; the inner condition is left open. -/
def cautiousTest (condition : Value) : SourceUnit :=
  { bareUnit "Flow.java" "FlowTest" .testClass with tests := [{
      name := "flow", provenance := ⟨"Flow.java", 2, 11⟩
      actions := [.branch (.literal { value := .flag true, kind := .boolean })
        [.branch condition
          [.wait { condition := "alertPresent", seconds := 10, provenance := ⟨"Flow.java", 6, 6⟩ }]
            []
          ⟨"Flow.java", 5, 7⟩] []
        ⟨"Flow.java", 4, 8⟩] }] }

def helpedTest : SourceUnit :=
  cautiousTest (.call (.mk "c1" "Helper" "ready" [] .static "" "Helper.ready()"))

def helpedEnv : Env where
  model := Linking.linkedModel [helpedTest] []
  profile := playwrightTs
  strategy := .call
  unit := cautiousTest (.verbatim "Helper.ready()")

theorem exists_of_any {α : Type} {r : Except Halt (Except Refusal α × Session)}
    {p : Except Refusal α × Session → Bool} (h : r.toOption.any p = true) :
    ∃ ending s, r = .ok (ending, s) ∧ p (ending, s) = true := by
  cases r with
  | error => cases h
  | ok r => exact ⟨r.1, r.2, rfl, h⟩

/-- The test is written without any fragment of a wait; its one wait is lost. -/
theorem exists_renderUnit_helpedEnv :
    (∃ out s, renderUnit helpedEnv = .ok (.ok out, s) ∧ waitEntries s = 0) ∧
      unitWaits helpedEnv = 1 ∧ lostWaits helpedEnv = 1 := by
  have hrun : (renderUnit helpedEnv).toOption.any (fun r => r.1.isOk && waitEntries r.2 == 0) =
    true ∧
      unitWaits helpedEnv = 1 ∧ lostWaits helpedEnv = 1 := by
    decide +kernel
  obtain ⟨_ | out, s, hwritten, hwaits⟩ := exists_of_any hrun.1
  · cases hwaits
  · exact ⟨⟨out, s, hwritten, eq_of_beq hwaits⟩, hrun.2⟩

theorem wait_entries_add_lostWaits_helpedEnv : ∃ out s,
    renderUnit helpedEnv = .ok (.ok out, s) ∧ waitEntries s = 0 ∧ lostWaits helpedEnv = 1 ∧
      waitEntries s + lostWaits helpedEnv = unitWaits helpedEnv := by
  obtain ⟨⟨out, s, hrun, hentries⟩, -, hlost⟩ := exists_renderUnit_helpedEnv
  exact ⟨out, s, hrun, hentries, hlost, (wait_entries_add_lostWaits rfl hrun).1⟩

/-- **A wait can get lost.** A unit of a linked model passes all checks, with a profile that comes
with the program, although one of its waits has no fragment. -/
theorem wait_missing_from_linked_unit : ∃ units env out s,
    Linking.link units [] = .ok env.model ∧ env.unit ∈ env.model.units ∧ env.profile ∈ builtins ∧
      env.strategy = .call ∧ renderUnit env = .ok (.ok out, s) ∧ waitEntries s ≠ unitWaits env := by
  obtain ⟨⟨out, s, hrun, hentries⟩, _, -⟩ := exists_renderUnit_helpedEnv
  refine ⟨[helpedTest], helpedEnv, out, s, rfl, List.mem_singleton.mpr rfl,
    List.mem_cons_of_mem _ (List.mem_singleton.mpr rfl), rfl, hrun, ?_⟩
  rw [hentries]
  decide

end TestMigration.Rendering
