import TestMigration.Proofs.Rendering.Fragments
import TestMigration.Proofs.Rendering.SideBySide
/-!
# The lines of sections

Sections, blocks and hooks are rendered apart and put together later, and other lines come around
them. None of that moves one line past another. So whatever is looked for in lines (`Lining`): what
lies in the lines of the parts of a unit lies in the lines of the unit, in the order of the parts
(`lining_unitSections`).

While lines are being written, what counts is what is added to them (`Lines`). A group of lines
rendered apart is a result, and something has to lie in the lines of the result.
-/

namespace TestMigration.Rendering

open TestMigration.Action Text Profile
open scoped List

/-!
### Whether a file has a fixture for its hooks

Some targets put the hooks of a suite into a fixture, which is a definition of its own. The fixture
is left out if the bodies of the hooks write nothing, so only rendering tells whether a file has
one.

But what comes before the hooks need not be rendered. No step that writes a body looks at the
session (`Sessionless`), and what comes before the hooks of a suite leaves the frame and the code as
they are. So the hooks are written as they are at the very start (`hasFixture_eq`).
-/

/-! ### Renderings that differ in their sessions -/

/-- Two states that differ at most in their sessions. -/
structure Alike (s t : State) : Prop where
  frame : s.frame = t.frame
  code : s.code = t.code

theorem Alike.trans {s t u : State} (h : Alike s t) (h' : Alike t u) : Alike s u :=
  ⟨h.frame.trans h'.frame, h.code.trans h'.code⟩

/-- The steps that can only pass on a difference of the sessions. -/
abbrev Sessionless (env : Env) : Kind := Matching env env.model {}

instance {env : Env} : View.Whole {} env where
  reframe _ _ := trivial
  here := ⟨{ unit := env.unit, mode := .test, page := "", body := "" }, trivial, rfl⟩
  inherited _ u _ := ⟨{ unit := u, mode := .test, page := "", body := "" }, trivial, rfl⟩

instance {env : Env} : Kind.Single (Sessionless env) where
  ofRead _ _ h := .same h
  anywhere u := ⟨{ unit := u, mode := .test, page := "", body := "" }, trivial, rfl⟩

/-- Hooks are written alike, whatever was said about the unit before. -/
theorem hookBlocks_ok_of_alike {env : Env} {s s' t : State} {hooks : List Code} {level : Nat}
    {setups teardowns : List (SourceUnit × Method)} (halike : Alike s t)
    (hchain : ∃ chain, env.model.superclassChain env.unit.unitName = .ok chain)
    (hrun : (hookBlocks setups teardowns level).run env s = (.ok hooks, s')) :
    ((hookBlocks setups teardowns level).run env t).1 = .ok hooks := by
  have hbuilds : Makes env (Sessionless env).assembly _ (hookBlocks setups teardowns level) :=
    builds_hookBlocks hchain level (fun _ _ => Kind.Single.anywhere _) fun _ _ =>
      Kind.Single.anywhere _
  have hsame := hbuilds.out s t ⟨halike.frame.symm, halike.code.symm, rfl, trivial⟩
  rw [hrun] at hsame
  generalize (hookBlocks setups teardowns level).run _ t = q at hsame
  rcases hsame with _ | ⟨⟨_, hcircle⟩, -⟩
  · rfl
  · cases hcircle

/-! ### What comes before the hooks -/

def InPlace (s : State) (_ : Option Stop) (s' : State) : Prop := s'.frame = s.frame

instance : Composable InPlace := ⟨fun _ => rfl, fun h h' => Eq.trans h' h⟩

instance : Tolerant InPlace := ⟨fun h => h.toQuiet.frame⟩

instance : CodeFree InPlace := ⟨fun _ _ h => h⟩

instance {α : Type} (f : Frame) (x : Render α) : Keeps InPlace (inFrame f x) := by
  refine ⟨fun env s => ?_⟩
  rw [run_inFrame]
  rfl

instance (actions : List Action) (f : Frame) :
    Keeps InPlace (renderBody actions f) := by unfold renderBody; infer_instance

instance (m : Method) : Keeps InPlace (functionLines m) := by
  unfold functionLines; infer_instance

section Before

variable {env : Env} {s s' : State}

theorem alike_of_run_fileSection {level : Nat} {x : Render Unit} [h : Keeps InPlace x] {code : Code}
    (hrun : (fileSection level x).run env s = (.ok code, s')) : Alike s' s := by
  obtain ⟨r, _, hgroup, hreturn⟩ := exists_of_run_bind hrun
  cases hreturn
  rw [run_lineGroup] at hgroup
  rcases hinner : x.run env (s.anew env level) with ⟨_ | a, s₂⟩
  · rw [hinner] at hgroup
    cases hgroup
  · rw [hinner] at hgroup
    cases hgroup
    have hframe : s₂.frame = (s.anew env level).frame := h.of_run hinner
    exact ⟨hframe, rfl⟩

theorem alike_of_run_constantSections {codes : List Code}
    (hrun : constantSections.run env s = (.ok codes, s')) : Alike s' s := by
  unfold constantSections at hrun
  rw [run_bind_ok run_read] at hrun
  split at hrun
  · cases hrun
    exact ⟨rfl, rfl⟩
  · obtain ⟨_, _, hsection, hreturn⟩ := exists_of_run_bind hrun
    cases hreturn
    exact alike_of_run_fileSection hsection

theorem alike_of_run_functionSections {methods : List Method} {codes : List Code}
    (hrun : (functionSections methods).run env s = (.ok codes, s')) : Alike s' s := by
  induction methods generalizing codes s with
  | nil =>
    cases hrun
    exact ⟨rfl, rfl⟩
  | cons m _ ih =>
    obtain ⟨_, _, hfirst, hrun⟩ := exists_of_run_bind hrun
    obtain ⟨_, _, hrest, hreturn⟩ := exists_of_run_bind hrun
    cases hreturn
    exact (ih hrest).trans (alike_of_run_fileSection hfirst)

theorem alike_of_silent {α : Type} {x : Render α} [h : Keeps Silent x] {r : Except Stop α}
    (hrun : x.run env s = (r, s')) : Alike s' s := ⟨(h.of_run hrun).frame, (h.of_run hrun).code⟩

end Before

/-! ### The fixture -/

/-- The hooks of a unit and its superclasses. -/
abbrev hooksOf (env : Env) (chain : List SourceUnit) : Render (List Code) :=
  hookBlocks (lifecycle (env.unit :: chain).reverse [.setupAll, .setup])
    (lifecycle (env.unit :: chain) [.teardown, .teardownAll])
    (if !env.profile.files.suiteOpen.isEmpty then 1 else 0)

def suiteHooks : Render (List Code) := do
  hooksOf (← read) (← superclasses)

/-- Whether the file of a unit has a fixture for hooks. -/
def hasFixture (env : Env) : Bool :=
  (env.unit.kind = .testClass || env.unit.kind = .suite) && !env.unit.tests.isEmpty &&
    !env.profile.files.hooksOpen.isEmpty &&
      (suiteHooks.run env env.start).1.toOption.any (!·.isEmpty)

/-- **A file has a fixture exactly if its hooks give one.** -/
theorem hasFixture_eq {env : Env} {s s' : State} {chain : List SourceUnit} {hooks : List Code}
    (hkind : env.unit.kind = .testClass ∨ env.unit.kind = .suite) (htests : env.unit.tests ≠ [])
    (hstart : Alike s env.start) (hchain : env.model.superclassChain env.unit.unitName = .ok chain)
    (hrun : (hooksOf env chain).run env s = (.ok hooks, s')) :
    hasFixture env = (!env.profile.files.hooksOpen.isEmpty && !hooks.isEmpty) := by
  have hhooks : (suiteHooks.run env env.start).1 = .ok hooks := by
    unfold suiteHooks
    rw [run_bind_ok run_read, run_bind_ok (run_superclasses hchain _)]
    exact hookBlocks_ok_of_alike hstart ⟨chain, hchain⟩ hrun
  have hsuite : (decide (env.unit.kind = .testClass) || decide (env.unit.kind = .suite)) =
      true := by
    simpa using hkind
  have hsome : env.unit.tests.isEmpty = false := by simpa using htests
  rw [hasFixture, hhooks, hsuite, hsome]
  rfl

/-- Items in lines, in their order. The lines may have been written between two states, or apart;
but steps without fragments leave no items. -/
class Lining {ι : Type} (L : List ι → List String → State → State → Prop) : Prop where
  trans {items items' : List ι} {lines lines' : List String} {s s' s'' : State} :
    L items lines s s' →
    L items' lines' s' s'' → L (items ++ items') (lines ++ lines') s s''
  mono {items : List ι} {lines lines' : List String} {s s' : State} : L items lines s s' →
    lines <+ lines' → L items lines' s s'
  idle {s s' : State} {e : Option Stop} : Unmarked s e s' → L [] [] s s'
  bare {lines : List String} {s s' : State} : L [] lines s s' → L [] [] s s'
  apart {items : List ι} {lines : List String} {s s' t t' : State} : L items lines s s' →
    t.session = s.session → t'.session = s'.session → L items lines t t'

/-- A step that writes lines in which some items lie. -/
structure Lines {ι : Type} (L : List ι → List String → State → State → Prop) (env : Env)
    (items : List ι) {α : Type} (x : Render α) : Prop where
  added {s : State} {a : α} {s' : State} : x.run env s = (.ok a, s') →
    ∃ lines, s'.code.lines = s.code.lines ++ lines ∧ L items lines s s'

/-- The lines of some groups. -/
def linesOf (codes : List Code) : List String := codes.flatMap Code.lines

section Lines

variable {α β ι : Type} {L : List ι → List String → State → State → Prop} [Lining L] {env : Env}
  {items items' : List ι} {s s' : State}
variable {x : Render α} {f : α → Render β} {l : List β} {g : β → List ι} {level : Nat} {code : Code}
variable {s₀ : State}

/-- A step that leaves nothing needs no lines. -/
theorem lining_of_unmarked [h : Keeps Unmarked x] {a : α}
    (hrun : x.run env s = (.ok a, s')) : L [] [] s s' := Lining.idle (h.of_run hrun)

theorem lining_nil (s : State) : L [] [] s s := Lining.idle (e := none) ⟨rfl, .refl s⟩

theorem Lines.of_unmarked (x : Render α) [h : Keeps Unmarked x] : Lines L env [] x := by
  refine ⟨fun hrun => ?_⟩
  obtain ⟨lines, hlines, -⟩ := (h.of_run hrun).added
  exact ⟨lines, hlines, Lining.mono (lining_of_unmarked hrun) (List.nil_sublist lines)⟩

theorem Lines.bind (hx : Lines L env items x)
    (hf : ∀ a, Lines L env items' (f a)) : Lines L env (items ++ items') (x >>= f) := by
  refine ⟨fun hrun => ?_⟩
  obtain ⟨a, _, hfirst, hrest⟩ := exists_of_run_bind hrun
  obtain ⟨lines, hlines, hitems⟩ := hx.added hfirst
  obtain ⟨lines', hlines', hitems'⟩ := (hf a).added hrest
  exact ⟨lines ++ lines', by rw [hlines', hlines, List.append_assoc], Lining.trans hitems hitems'⟩

theorem Lines.after [Keeps Unmarked x] (hf : ∀ a, Lines L env items (f a)) :
    Lines L env items (x >>= f) :=
  (Lines.of_unmarked x).bind hf

theorem Lines.last (hx : Lines L env items x)
    (hf : ∀ a, Lines L env [] (f a)) : Lines L env items (x >>= f) := by
  have h := hx.bind hf
  rwa [List.append_nil] at h

theorem Lines.before (hx : Lines L env items x)
    [∀ a, Keeps Unmarked (f a)] : Lines L env items (x >>= f) := hx.last fun a => .of_unmarked (f a)

omit [Lining L] in
theorem Lines.withEnv {f : Env → Render β} (hf : Lines L env items (f env)) :
    Lines L env items (read >>= f) := ⟨fun hrun => hf.added hrun⟩

theorem Lines.indented {x : Render Unit} (hx : Lines L env items x) :
    Lines L env items (indented x) := by
  refine ⟨fun {s _ _} hrun => ?_⟩
  obtain ⟨_, hinner, rfl⟩ := exists_of_run_indented hrun
  obtain ⟨lines, hlines, hitems⟩ := hx.added hinner
  exact ⟨lines, hlines, Lining.apart hitems rfl rfl⟩

theorem Lines.forM {f : β → Render Unit}
    (hf : ∀ b, Lines L env (g b) (f b)) : Lines L env (l.flatMap g) (l.forM f) := by
  induction l with
  | nil => exact .of_unmarked (pure ())
  | cons b _ ih => exact (hf b).bind fun _ => ih

/-! ### Groups of lines -/

theorem lining_fileSection {x : Render Unit} (hx : Lines L env items x)
    (hrun : (fileSection level x).run env s = (.ok code, s')) : L items code.lines s s' := by
  obtain ⟨r, _, hgroup, hreturn⟩ := exists_of_run_bind hrun
  cases hreturn
  obtain ⟨_, _, hstart, hempty, hinner, hcode, hsession⟩ := exists_of_run_lineGroup hgroup
  obtain ⟨_, hlines, hitems⟩ := hx.added hinner
  rw [hcode, hlines, hempty]
  exact Lining.apart hitems hstart.symm hsession

def groupsOf (level : Nat) (f : β → Render Unit) : List β → Render (List Code)
  | [] => return []
  | b :: rest => do
    let code ← fileSection level (f b)
    return code :: (← groupsOf level f rest)

theorem lining_groupsOf {f : β → Render Unit} (hf : ∀ b, Lines L env (g b) (f b))
    {codes : List Code}
    (hrun : (groupsOf level f l).run env s = (.ok codes, s')) :
    L (l.flatMap g) (linesOf codes) s s' := by
  induction l generalizing codes s with
  | nil =>
    cases hrun
    exact lining_nil _
  | cons b _ ih =>
    obtain ⟨_, _, hfirst, hrun⟩ := exists_of_run_bind hrun
    obtain ⟨_, _, hrest, hreturn⟩ := exists_of_run_bind hrun
    cases hreturn
    exact Lining.trans (lining_fileSection (hf b) hfirst) (ih hrest)

/-- Lines around a part that was rendered before leave it in one piece. -/
theorem lining_wrapped {before after : Render Unit} [Keeps Unmarked before] [Keeps Unmarked after]
    {g : Code → Code} {inner : List String}
    (hg : ∀ c : Code, ∃ more, (g c).lines = c.lines ++ more ∧ inner <+ more)
    (hrun : (fileSection 0 (do
      before
      modifyCode g
      after)).run env s = (.ok code, s')) (hinner : L items inner s₀ s) :
    L items code.lines s₀ s' := by
  have hkeeps : Keeps Unmarked (modifyCode g) := unmarked_modifyCode fun c =>
    let ⟨more, hmore, _⟩ := hg c
    ⟨more, hmore⟩
  obtain ⟨r, _, hgroup, hreturn⟩ := exists_of_run_bind hrun
  cases hreturn
  obtain ⟨_, _, hstart, -, hrun, hcode, hsession⟩ := exists_of_run_lineGroup hgroup
  have hidle : L [] [] s s' := Lining.apart (lining_of_unmarked hrun) hstart.symm hsession
  obtain ⟨_, s₄, -, hrun⟩ := exists_of_run_bind hrun
  obtain ⟨_, _, hmodify, hafter⟩ := exists_of_run_bind hrun
  cases hmodify
  obtain ⟨more, hmore, hsub⟩ := hg s₄.code
  obtain ⟨_, hlines, -⟩ := ((inferInstance : Keeps Unmarked after).of_run hafter).added
  have hall := Lining.trans hinner hidle
  rw [List.append_nil, List.append_nil] at hall
  refine Lining.mono hall ?_
  rw [hcode, hlines]
  rw [hmore]
  exact (hsub.trans (List.sublist_append_right _ _)).trans (List.sublist_append_left _ _)

/-- Blocks are put together with only empty lines between them. -/
theorem exists_lines_joinBlocks (gap : Nat) (blocks : List Code) (c : Code) :
    ∃ more, (joinBlocks gap c blocks).lines = c.lines ++ more ∧ linesOf blocks <+ more := by
  induction blocks generalizing c with
  | nil => exact ⟨[], (List.append_nil _).symm, List.Sublist.refl _⟩
  | cons b rest ih =>
    cases rest with
    | nil => exact ⟨b.lines, rfl, by simp [linesOf]⟩
    | cons _ rest =>
      obtain ⟨more, hmore, hsub⟩ := ih ((c.append b).blank gap)
      refine ⟨b.lines ++ (List.replicate gap "" ++ more), ?_, ?_⟩
      · rw [joinBlocks, hmore]
        · simp [Code.append, Code.blank]
        · simp
      · exact (List.Sublist.refl _).append (hsub.trans (List.sublist_append_right _ _))

theorem lining_suiteLines {nested : Bool} {gap : Nat} {opening closing : String}
    {blocks : List Code} (hrun : (fileSection 0 do
      if nested then line opening
      modifyCode fun c => joinBlocks gap c blocks
      if !closing.isEmpty then line closing).run env s = (.ok code, s'))
    (hblocks : L items (linesOf blocks) s₀ s) : L items code.lines s₀ s' := by
  dsimp only at hrun
  split at hrun
  · exact lining_wrapped (exists_lines_joinBlocks gap blocks) hrun hblocks
  · have hwrapped : (fileSection 0 ((pure () : Render Unit) >>= fun _ => do
        modifyCode fun c => joinBlocks gap c blocks
        if !closing.isEmpty then line closing)).run env s = (.ok code, s') := by
      exact hrun
    exact lining_wrapped (exists_lines_joinBlocks gap blocks) hwrapped hblocks

end Lines

/-! ### The sections of a unit -/

theorem functionSections_eq (methods : List Method) :
    functionSections methods = groupsOf 0 functionLines methods := by
  induction methods with
  | nil => rfl
  | cons m _ ih => rw [functionSections, groupsOf, ih]

theorem testBlocks_eq (level : Nat) (tests : List TestCase) :
    testBlocks level tests = groupsOf level testLines tests := by
  induction tests with
  | nil => rfl
  | cons t _ ih => rw [testBlocks, groupsOf, ih]

/-- What lies in the lines of the parts of a unit. Hooks are written as at the start of a file. -/
structure UnitLining {ι : Type} (L : List ι → List String → State → State → Prop) (env : Env) where
  function : Method → List ι
  pageMethod : Method → List ι
  opening : List ι
  hooks : List ι
  test : TestCase → List ι
  functions : env.unit.kind ≠ .pageObject → ∀ m, Lines L env (function m) (functionLines m)
  pageMethods : env.unit.kind = .pageObject →
    ∀ page m, Lines L env (pageMethod m) (pageMethodLines page m)
  constructors : ∀ base page, Lines L env opening (constructorLines base page)
  tests : ∀ t, Lines L env (test t) (testLines t)
  blocks {chain : List SourceUnit} {codes : List Code} {s s' : State} :
    env.unit.kind = .testClass ∨ env.unit.kind = .suite → env.unit.tests ≠ [] → Alike s env.start →
    env.model.superclassChain env.unit.unitName = .ok chain →
    (hooksOf env chain).run env s = (.ok codes, s') → L hooks (linesOf codes) s s'

namespace UnitLining

variable {ι : Type} {L : List ι → List String → State → State → Prop} {env : Env}
  (U : UnitLining L env)

def suiteItems : List ι :=
  if env.unit.tests.isEmpty then [] else U.hooks ++ env.unit.tests.flatMap U.test

def items : List ι :=
  match env.unit.kind with
  | .testClass | .suite => (env.unit.methodsWithRole [.helper]).flatMap U.function ++ U.suiteItems
  | .pageObject => U.opening ++ (env.unit.methodsWithRole [.pageMethod]).flatMap U.pageMethod
  | .utilityModule | .support =>
    (env.unit.methods.filter (·.role != .constructor)).flatMap U.function

variable [Lining L] {s s' : State}
variable {code : Code} {codes : List Code}

theorem suiteSection (hkind : env.unit.kind = .testClass ∨ env.unit.kind = .suite)
    (htests : env.unit.tests ≠ []) (hstart : Alike s env.start)
    (hrun : suiteSection.run env s = (.ok code, s')) :
    L (U.hooks ++ env.unit.tests.flatMap U.test) code.lines s s' := by
  have hparts : ∀ {chain : List SourceUnit} {x : List Code → Render Code} {s₁ : State},
      (∀ {blocks s₂}, (x blocks).run env s₂ = (.ok code, s') → ∀ {items : List ι},
        L items (linesOf blocks) s₁ s₂ → L items code.lines s₁ s') →
      env.model.superclassChain env.unit.unitName = .ok chain → Alike s₁ env.start →
      (do
        let hooks ← hooksOf env chain
        let tests ← testBlocks
          (if !env.profile.files.suiteOpen.isEmpty then 1 else 0) env.unit.tests
        x (hooks ++ tests)).run env s₁ = (.ok code, s') →
      L (U.hooks ++ env.unit.tests.flatMap U.test) code.lines s₁ s' := by
    intro chain x s₁ hx hchain hstart hrun
    obtain ⟨hooks, s₂, hhooks, hrun⟩ := exists_of_run_bind hrun
    obtain ⟨tests, _, hblocks, hlast⟩ := exists_of_run_bind hrun
    refine hx hlast ?_
    rw [linesOf, List.flatMap_append]
    exact Lining.trans (U.blocks hkind htests hstart hchain hhooks)
      (lining_groupsOf U.tests (testBlocks_eq _ _ ▸ hblocks))
  unfold Rendering.suiteSection at hrun
  rw [run_bind_ok run_read] at hrun
  dsimp only at hrun
  obtain ⟨chain, s₁, hsuper, hrun⟩ := exists_of_run_bind hrun
  have hchain := superclassChain_of_run hsuper
  have hstart₁ := (alike_of_silent hsuper).trans hstart
  have hbefore : L [] [] s s₁ := lining_of_unmarked hsuper
  split at hrun
  · obtain ⟨_, s₂, hnote, hrun⟩ := exists_of_run_bind hrun
    exact Lining.trans hbefore (Lining.trans (lining_of_unmarked hnote)
      (hparts (fun h _ => lining_suiteLines h) hchain ((alike_of_silent hnote).trans hstart₁) hrun))
  · exact Lining.trans hbefore (hparts (fun h _ => lining_suiteLines h) hchain hstart₁ hrun)

omit U in
theorem constantSections (hrun : constantSections.run env s = (.ok codes, s')) :
    L [] (linesOf codes) s s' := by
  unfold Rendering.constantSections at hrun
  rw [run_bind_ok run_read] at hrun
  split at hrun
  · cases hrun
    exact lining_nil _
  · obtain ⟨_, _, hsection, hreturn⟩ := exists_of_run_bind hrun
    cases hreturn
    simpa [linesOf] using lining_fileSection (L := L) (Lines.of_unmarked _) hsection

theorem functionSections (hkind : env.unit.kind ≠ .pageObject) {methods : List Method}
    (hrun : (functionSections methods).run env s = (.ok codes, s')) :
    L (methods.flatMap U.function) (linesOf codes) s s' :=
  lining_groupsOf (U.functions hkind) (functionSections_eq methods ▸ hrun)

theorem testSections (hkind : env.unit.kind = .testClass ∨ env.unit.kind = .suite)
    (hstart : Alike s env.start) (hrun : testSections.run env s = (.ok codes, s')) :
    L ((env.unit.methodsWithRole [.helper]).flatMap U.function ++ U.suiteItems)
      (linesOf codes) s s' := by
  have hpage : env.unit.kind ≠ .pageObject := by rcases hkind with h | h <;> rw [h] <;> decide
  unfold Rendering.testSections at hrun
  rw [run_bind_ok run_read] at hrun
  obtain ⟨_, _, hconstants, hrun⟩ := exists_of_run_bind hrun
  obtain ⟨_, _, hhelpers, hrun⟩ := exists_of_run_bind hrun
  obtain ⟨_, s₃, hnotes, hrun⟩ := exists_of_run_bind hrun
  have hbefore := Lining.trans (L := L) (constantSections hconstants)
    (Lining.trans (U.functionSections hpage hhelpers) (lining_of_unmarked hnotes))
  -- Whatever has been written so far, the suite is written from where the file starts.
  have hstart₃ : Alike s₃ env.start := (alike_of_silent hnotes).trans
    ((alike_of_run_functionSections hhelpers).trans
      ((alike_of_run_constantSections hconstants).trans hstart))
  unfold suiteItems
  split at hrun
  · rename_i htests
    cases hrun
    simpa [linesOf, htests] using hbefore
  · rename_i htests
    obtain ⟨_, _, hsuite, hreturn⟩ := exists_of_run_bind hrun
    cases hreturn
    have hall := Lining.trans hbefore (U.suiteSection hkind (by simpa using htests) hstart₃ hsuite)
    simpa [linesOf, htests] using hall

theorem classSection (hkind : env.unit.kind = .pageObject)
    (hrun : classSection.run env s = (.ok code, s')) :
    L (U.opening ++ (env.unit.methodsWithRole [.pageMethod]).flatMap U.pageMethod)
      code.lines s s' := by
  unfold Rendering.classSection at hrun
  rw [run_bind_ok run_read] at hrun
  obtain ⟨chain, _, hchain, hrun⟩ := exists_of_run_bind hrun
  obtain ⟨_, _, hneed, hrun⟩ := exists_of_run_bind hrun
  obtain ⟨members, _, hmembers, hrun⟩ := exists_of_run_bind hrun
  have hbase : Keeps Unmarked (chain.head?.forM needClass) := by
    cases chain.head? with
    | none => exact (inferInstance : Keeps Unmarked (pure () : Render Unit))
    | some base => exact (inferInstance : Keeps Unmarked (needClass base))
  have hinner := Lining.trans (lining_of_unmarked hchain) (Lining.trans (lining_of_unmarked hneed)
    (lining_fileSection (Lines.after fun _ => (U.constructors chain.head? _).bind fun _ =>
      Lines.forM (U.pageMethods hkind _)) hmembers))
  exact lining_wrapped (g := (·.append members))
    (fun c => ⟨members.lines, rfl, List.Sublist.refl _⟩) hrun hinner

/-- **What lies in the lines of the parts of a unit lies in the lines of the unit**, in order. -/
theorem unitSections {r : String × List Code}
    (hrun : unitSections.run env env.start = (.ok r, s')) :
    L U.items (linesOf r.2) env.start s' := by
  unfold Rendering.unitSections at hrun
  rw [run_bind_ok run_read] at hrun
  unfold items
  cases hkind : env.unit.kind with
  | testClass | suite =>
    rw [hkind] at hrun
    obtain ⟨codes, s₁, hsections, hreturn⟩ := exists_of_run_bind hrun
    cases hreturn
    exact U.testSections (by simp [hkind]) ⟨rfl, rfl⟩ hsections
  | pageObject =>
    rw [hkind] at hrun
    obtain ⟨codes, s₁, hsections, hreturn⟩ := exists_of_run_bind hrun
    cases hreturn
    obtain ⟨_, s₂, hclass, hrun⟩ := exists_of_run_bind hsections
    obtain ⟨constants, s₃, hconstants, hreturn⟩ := exists_of_run_bind hrun
    cases hreturn
    -- The constants come last in the trace and first in the text, but nothing is looked for in
    -- them.
    have hall :=
      Lining.trans (U.classSection hkind hclass) (Lining.bare (constantSections hconstants))
    rw [List.append_nil] at hall
    exact Lining.mono hall (by simp [linesOf])
  | utilityModule | support =>
    rw [hkind] at hrun
    obtain ⟨codes, s₁, hsections, hreturn⟩ := exists_of_run_bind hrun
    cases hreturn
    unfold functionModule at hsections
    rw [run_bind_ok run_read] at hsections
    obtain ⟨constants, s₂, hconstants, hrun⟩ := exists_of_run_bind hsections
    obtain ⟨_, s₃, hfunctions, hreturn⟩ := exists_of_run_bind hrun
    cases hreturn
    rw [linesOf, List.flatMap_append]
    exact Lining.trans (constantSections hconstants)
      (U.functionSections (by rw [hkind]; decide) hfunctions)

end UnitLining

end TestMigration.Rendering
