import TestMigration.Proofs.Extraction.ClassPageObjects
import TestMigration.Proofs.Rendering.SourceOrder
import TestMigration.Proofs.Rendering.TypeNames
/-!
# The page objects that a body declares

A body that uses page objects of the setup starts with their declarations. The class of a variable
is read off the table of the unit, which knows one type for each name (`pageObjects_of_extract`),
while a call on the variable was linked against the type it has where the call stands. So a body may
declare a variable with a class that its calls do not belong to: the type that counts is that of the
page object created last under the name, in any body of the unit
(`receiver_declared_as_last_created`).
-/

namespace TestMigration.Rendering

open TestMigration.Action Extraction Linking Text Profile

/-! ### Declarations -/

def declaredClass? (env : Env) (f : Frame) (actions : List Action) (name : String) :
    Option SourceUnit :=
  if f.params.contains name || ((all actions).map boundName).contains name
      || f.declared.contains name then none
  else
    (unitForType env.model ((Table.get? name f.contextObjects).getD "") f.unit).filter
      (·.kind == .pageObject)

/-- The page objects that a body declares, each with its class. -/
def declaredObjects (env : Env) (f : Frame) (actions : List Action) : List (String × SourceUnit) :=
  (usedObjects env.strategy f.contextObjects actions).filterMap fun name =>
    (declaredClass? env f actions name).map (name, ·)

/-- The line that declares a page object of the setup. -/
def declaration (env : Env) (f : Frame) (object : String × SourceUnit) : String :=
  fill env.profile.phrases.declare [("name", env.profile.naming.ident object.1),
    ("value", fill env.profile.phrases.construct
      [("type", object.2.simpleName), ("args", f.page)])]

section Declarations

variable {env : Env}
variable {actions : List Action} {f : Frame} {name other : String} {s s' : State}
variable {objects : Table String String}

theorem exists_of_needClass (env : Env) (u : SourceUnit) (s : State) :
    ∃ s', (needClass u).run env s = (.ok (), s') ∧ s'.frame = s.frame ∧ s'.code = s.code := by
  unfold needClass
  rw [run_bind_ok run_read]
  split <;> exact ⟨_, rfl, rfl, rfl⟩

/-- The frame with one more variable, if there is a class to declare it with. -/
def Frame.declaring (f : Frame) (name : String) (found : Option SourceUnit) : Frame :=
  if found.isSome then { f with declared := insertNew name f.declared } else f

theorem exists_of_declareObject (env : Env) (actions : List Action) (name : String) (s : State) :
    ∃ s', (declareObject ((all actions).map boundName) name).run env s = (.ok (), s') ∧
      s'.code = (declaredClass? env s.frame actions name).elim s.code
        (fun target => s.code.line (declaration env s.frame (name, target))) ∧
      s'.frame = s.frame.declaring name (declaredClass? env s.frame actions name) := by
  unfold declareObject declaredClass?
  rw [run_bind_ok run_frame]
  split
  · exact ⟨s, rfl, rfl, rfl⟩
  · rw [run_bind_ok (run_pageObjectFor ..)]
    cases hfound : (unitForType env.model ((Table.get? name s.frame.contextObjects).getD "")
        s.frame.unit).filter (·.kind == .pageObject) with
    | none => exact ⟨s, rfl, rfl, rfl⟩
    | some target =>
      obtain ⟨s₁, hneed, hframe, hcode⟩ := exists_of_needClass env target s
      rw [run_bind_ok hneed]
      refine ⟨{ s₁ with
        frame := { s₁.frame with declared := insertNew name s₁.frame.declared }
        code := s₁.code.line (declaration env s.frame (name, target)) }, rfl, ?_, ?_⟩
      · rw [hcode, Option.elim_some]
      · rw [hframe]
        rfl

theorem declaredClass?_insertNew (hne : other ≠ name) :
    declaredClass? env { f with declared := insertNew name f.declared } actions other =
      declaredClass? env f actions other := by
  unfold declaredClass?
  have hsame : (insertNew name f.declared).contains other = f.declared.contains other := by
    rw [Bool.eq_iff_iff, List.contains_iff_mem, mem_insertNew]
    simp [hne]
  rw [hsame]

theorem declaredClass?_declaring (found : Option SourceUnit) (hne : other ≠ name) :
    declaredClass? env (f.declaring name found) actions other =
      declaredClass? env f actions other := by
  unfold Frame.declaring
  split
  · exact declaredClass?_insertNew hne
  · rfl

/-- **The declarations of a body are those listed.** -/
theorem code_forM_declareObject (actions : List Action) {names : List String} (hnames : names.Nodup)
    (hrun : (names.forM (declareObject ((all actions).map boundName))).run env s = (.ok (), s')) :
    s'.code = (names.filterMap fun name => (declaredClass? env s.frame actions name).map
      (name, ·)).foldl (fun code object => code.line (declaration env s.frame object)) s.code := by
  induction names generalizing s with
  | nil =>
    cases hrun
    rfl
  | cons name rest ih =>
    obtain ⟨hnew, hrest⟩ := List.nodup_cons.mp hnames
    obtain ⟨s₁, hfirst, hcode, hframe⟩ := exists_of_declareObject env actions name s
    change (declareObject _ name >>= fun _ => rest.forM _).run env s = _ at hrun
    rw [run_bind_ok hfirst] at hrun
    have hclass : ∀ other ∈ rest, declaredClass? env s₁.frame actions other =
        declaredClass? env s.frame actions other := by
      intro other hother
      rw [hframe]
      exact declaredClass?_declaring _ fun heq => hnew (heq ▸ hother)
    have hline : declaration env s₁.frame = declaration env s.frame := by
      rw [hframe]
      unfold declaration Frame.declaring
      split <;> rfl
    rw [ih hrest hrun, hline, hcode, List.filterMap_cons,
      List.filterMap_congr fun other hother => by rw [hclass other hother]]
    cases declaredClass? env s.frame actions name with
    | none => rfl
    | some => simp only [Option.map_some, Option.elim_some, List.foldl_cons]

theorem nodup_usedObjects (strategy : DelegateStrategy) (objects : Table String String)
    (actions : List Action) : (usedObjects strategy objects actions).Nodup :=
  nodup_foldl_insertNew List.nodup_nil _

theorem receiver_mem_usedObjects {strategy : DelegateStrategy} (hstrategy : strategy ≠ .inline)
    {c : Call} (hc : c ∈ calls actions)
    (hstyle : c.style = .onVariable) (hhas : Table.has c.receiver objects = true) :
    c.receiver ∈ usedObjects strategy objects actions := by
  unfold usedObjects
  rw [mem_foldl_insertNew]
  obtain ⟨a, ha, hpart⟩ := List.mem_flatMap.mp hc
  obtain ⟨v, hv, hcall⟩ := List.mem_filterMap.mp hpart
  refine .inr (List.mem_filter.mpr ⟨List.mem_flatMap.mpr ⟨a, ha, List.mem_map.mpr ⟨v, hv, ?_⟩⟩,
    hhas⟩)
  cases v <;> cases hcall
  simp [hstyle, hstrategy]

theorem code_declareObjects (hmode : s.frame.mode = .test ∨ s.frame.mode = .function)
    (hrun : (declareObjects actions).run env s = (.ok (), s')) :
    s'.code = (declaredObjects env s.frame actions).foldl
      (fun code object => code.line (declaration env s.frame object)) s.code := by
  unfold declareObjects at hrun
  rw [run_bind_ok run_frame, if_pos (by simpa using hmode), run_bind_ok run_read] at hrun
  exact code_forM_declareObject actions (nodup_usedObjects ..) hrun

/-- What the setups of a unit and its superclasses know about a variable; the unit comes first. -/
theorem get?_contextObjects (hrun : contextObjects.run env s = (.ok objects, s'))
    {typeName : String} (hnodup : (Table.keys env.unit.context.pageObjects).Nodup)
    (hown : Table.get? name env.unit.context.pageObjects = some typeName) :
    Table.get? name objects = some typeName := by
  unfold contextObjects at hrun
  rw [run_bind_ok run_read] at hrun
  obtain ⟨_, _, -, hrun⟩ := exists_of_run_bind hrun
  cases hrun
  rw [List.reverse_cons, List.foldl_append, List.foldl_cons, List.foldl_nil,
    Table.get?_merge_of_nodup hnodup, hown, Option.some_or]

theorem exists_declarations_of_renderBody [HoldsValues env.profile.phrases]
    (hmode : f.mode = .test ∨ f.mode = .function) (helements : f.elements = [])
    {declared : List String} (hrun : (renderBody actions f).run env s = (.ok declared, s')) :
    ∃ objects s₁ rest, contextObjects.run env s = (.ok objects, s₁) ∧
      s'.code.lines = ((declaredObjects env { f with contextObjects := objects } actions).foldl
        (fun code object => code.line (declaration env f object)) s.code).lines ++ rest := by
  obtain ⟨objects, s₁, _, hobjects, hbody, -, rfl⟩ := exists_of_run_renderBody hrun
  rw [if_pos (by simpa using hmode)] at hobjects
  have hstart : s₁.code = s.code := (Keeps.of_run (R := Silent) hobjects).code
  obtain ⟨s₄, hdeclare, hbody⟩ := exists_of_run_body hbody
  have hcode := code_declareObjects hmode hdeclare
  have hfits : Scope.Fits { unit := f.unit, mode := f.mode } s₄.frame :=
    (Keeps.of_run (R := Calm) hdeclare).mild.fits
      ⟨rfl, rfl, fun id => by simp [helements]⟩
  obtain ⟨rest, hlines, -⟩ :=
    (leaves_bodyLines (splices_spliceCall _) actions hfits hbody).tells.added
  refine ⟨objects, s₁, rest, hobjects, ?_⟩
  rw [hlines, hcode, ← hstart]
  rfl

end Declarations

/-! ### The main result -/

/-- The type of the page object that is created last under a name. -/
def lastCreated? (tree : Syntax.Tree) (name : String) : Option String :=
  ((creations tree).reverse.find? (·.1 = name)).map Prod.snd

/-- **A body declares a variable as the page object created last under its name**, wherever in the
unit. So a receiver is known, and declared, with the type that its calls were linked against exactly
if that type is the last one. -/
theorem receiver_declared_as_last_created {tree : Syntax.Tree} {unit : SourceUnit}
    (hextract : extract tree = .ok unit) {env : Env} {demoted : String → Bool}
    (hunit : env.unit = demoteUnit demoted unit) (hprofile : env.profile ∈ builtins)
    (hstrategy : env.strategy = .call) {actions : List Action} {c : Call} (hc : c ∈ calls actions)
    (hstyle : c.style = .onVariable) {created : String}
    (hlast : lastCreated? tree c.receiver = some created) :
    (Table.get? c.receiver unit.context.pageObjects = some c.targetType ↔ created = c.targetType) ∧
      ∀ {f : Frame} {declared : List String} {s s' : State},
        f.mode = .test ∨ f.mode = .function → f.elements = [] →
        c.receiver ∉ f.params → c.receiver ∉ (all actions).map boundName → c.receiver ∉ f.declared →
        (renderBody actions f).run env s = (.ok declared, s') →
        ∃ objects rest,
          s'.code.lines = ((declaredObjects env { f with contextObjects := objects } actions).foldl
            (fun code object => code.line (declaration env f object)) s.code).lines ++ rest ∧
          ∀ target, (c.receiver, target) ∈
              declaredObjects env { f with contextObjects := objects } actions ↔
            unitForType env.model created f.unit = some target ∧ target.kind = .pageObject := by
  have hobjects := pageObjects_of_extract hextract
  have hget : Table.get? c.receiver unit.context.pageObjects = some created := by
    rw [hobjects, Table.get?_ofPairs]
    exact hlast
  refine ⟨by rw [hget, Option.some.injEq], ?_⟩
  intro f declared s s' hmode helements hparams hbound hnew hrun
  have := holdsValues_of_mem_builtins hprofile
  obtain ⟨objects, _, rest, hcontext, hlines⟩ :=
    exists_declarations_of_renderBody hmode helements hrun
  refine ⟨objects, rest, hlines, fun target => ?_⟩
  have hfound : Table.get? c.receiver objects = some created := by
    refine get?_contextObjects hcontext ?_ ?_
    · rw [hunit]
      change (Table.keys unit.context.pageObjects).Nodup
      rw [hobjects]
      exact Table.nodup_keys_ofPairs _
    · rw [hunit]
      exact hget
  have hused : c.receiver ∈ usedObjects env.strategy objects actions :=
    receiver_mem_usedObjects (by rw [hstrategy]; decide) hc hstyle (by rw [Table.has, hfound]; rfl)
  have hclass : declaredClass? env { f with contextObjects := objects } actions c.receiver =
      (unitForType env.model created f.unit).filter (·.kind == .pageObject) := by
    rw [declaredClass?, if_neg (by simpa using ⟨⟨hparams, by simpa using hbound⟩, hnew⟩), hfound]
    rfl
  rw [declaredObjects, List.mem_filterMap]
  constructor
  · rintro ⟨_, -, hname⟩
    obtain ⟨_, hunit', heq⟩ := Option.map_eq_some_iff.mp hname
    obtain ⟨rfl, rfl⟩ := Prod.mk.inj heq
    rw [hclass, Option.filter_eq_some_iff, beq_iff_eq] at hunit'
    exact hunit'
  · intro htarget
    refine ⟨c.receiver, hused, ?_⟩
    rw [hclass, Option.filter_eq_some_iff.mpr ⟨htarget.1, by simpa using htarget.2⟩]
    rfl

/-- A test that creates a page object named `current` and calls a method of it. -/
def currentTest (name typeName method : String) (line : Nat) : Syntax.MethodDecl :=
  testMethod name [
    .localVar typeName "current"
      (some (.new typeName [.name "driver" "driver" ⟨line + 2, line + 2, 1⟩] ""
        ⟨line + 2, line + 2, 1⟩))
      "" ⟨line + 2, line + 2, 1⟩,
    .expr (.call (some (.name "current" "current" ⟨line + 3, line + 3, 1⟩)) method []
      ("current." ++ method ++ "()") ⟨line + 3, line + 3, 1⟩) "" ⟨line + 3, line + 3, 1⟩]
    ⟨line, line + 4, 1⟩

/-- Two tests with one name for page objects of different types. -/
def reusedName : Syntax.Tree :=
  testTree [currentTest "first" "LoginPage" "open" 5, currentTest "second" "HomePage" "visit" 10]

def reusedNameUnit : SourceUnit :=
  (extract reusedName).toOption.getD (page "" "" "" "" [])

def reusedNameEnv : Env where
  model := linkedModel
    [page "p/HomePage.java" "p" "HomePage" "" [pageMethod "visit" [] []],
      page "p/LoginPage.java" "p" "LoginPage" "" [pageMethod "open" [] []], reusedNameUnit] []
  profile := playwrightTs
  strategy := .call
  unit := demoteUnit (fun _ => false) reusedNameUnit

def reusedNameFrame : Frame where
  unit := reusedNameUnit
  mode := .test
  page := "page"
  body := "test:first"

/-- The first test calls a method of a `LoginPage` known as a `HomePage`. -/
theorem call_reusedName : (extract reusedName).toOption.isSome = true ∧
    (unitForType reusedNameEnv.model "HomePage" reusedNameFrame.unit).any
      (fun u => u.kind == .pageObject && u.unitName == "p/HomePage.java") = true ∧
    ∃ t ∈ reusedNameUnit.tests, ∃ c ∈ calls t.actions,
      (t.name = "first" ∧ c.style = .onVariable ∧ c.targetType = "LoginPage") ∧
        Table.get? c.receiver reusedNameUnit.context.pageObjects = some "HomePage" ∧
        lastCreated? reusedName c.receiver = some "HomePage" ∧
        c.receiver ∉ (all t.actions).map boundName ∧
        ((renderBody t.actions reusedNameFrame).run reusedNameEnv
          { frame := reusedNameFrame }).1.toOption.isSome = true := by decide +kernel

theorem extract_reusedName : extract reusedName = .ok reusedNameUnit := by
  have hok := call_reusedName.1
  unfold reusedNameUnit
  cases hextract : extract reusedName with
  | error =>
    rw [hextract] at hok
    cases hok
  | ok => rfl

/-- The first test declares its `LoginPage` as a `HomePage`. -/
theorem receiver_declared_as_last_created_reusedName : extract reusedName = .ok reusedNameUnit ∧
      ∃ t ∈ reusedNameUnit.tests, ∃ c ∈ calls t.actions, t.name = "first" ∧ c.style = .onVariable ∧
        c.targetType = "LoginPage" ∧ lastCreated? reusedName c.receiver = some "HomePage" ∧
        ∃ declared s', (renderBody t.actions reusedNameFrame).run reusedNameEnv
            { frame := reusedNameFrame } = (.ok declared, s') ∧
          ∃ objects target, (c.receiver, target) ∈ declaredObjects reusedNameEnv
            { reusedNameFrame with contextObjects := objects } t.actions ∧
            target.unitName = "p/HomePage.java" := by
  refine ⟨extract_reusedName, ?_⟩
  obtain ⟨-, hhome, t, ht, c, hc, ⟨hname, hstyle, htype⟩, -, hlast, hbound, hok⟩ := call_reusedName
  refine ⟨t, ht, c, hc, hname, hstyle, htype, hlast, ?_⟩
  rcases hrun : (renderBody t.actions reusedNameFrame).run reusedNameEnv
      { frame := reusedNameFrame } with ⟨stop | declared, s'⟩
  · rw [hrun] at hok
    cases hok
  · have hunit : reusedNameEnv.unit = demoteUnit (fun _ => false) reusedNameUnit := rfl
    obtain ⟨-, hdeclares⟩ := receiver_declared_as_last_created extract_reusedName hunit
      (List.mem_cons_of_mem _ (List.mem_singleton.mpr rfl)) rfl hc hstyle hlast
    obtain ⟨objects, _, -, htarget⟩ := hdeclares (.inl rfl) rfl (List.not_mem_nil) hbound
      (List.not_mem_nil) hrun
    cases hfound : unitForType reusedNameEnv.model "HomePage" reusedNameFrame.unit with
    | none =>
      rw [hfound] at hhome
      cases hhome
    | some target =>
      rw [hfound, Option.any_some, Bool.and_eq_true, beq_iff_eq, beq_iff_eq] at hhome
      exact ⟨declared, s', rfl, objects, target, (htarget target).mpr ⟨hfound, hhome.1⟩, hhome.2⟩

/-- The first test calls a method of a `LoginPage`, while the table of the unit says `HomePage`. -/
theorem reused_name_known_with_other_type : extract reusedName = .ok reusedNameUnit ∧
      ∃ t ∈ reusedNameUnit.tests, ∃ c ∈ calls t.actions, t.name = "first" ∧ c.style = .onVariable ∧
        c.targetType = "LoginPage" ∧
        Table.get? c.receiver reusedNameUnit.context.pageObjects = some "HomePage" := by
  obtain ⟨-, -, t, ht, c, hc, ⟨hname, hstyle, htype⟩, hknown, -⟩ := call_reusedName
  exact ⟨extract_reusedName, t, ht, c, hc, hname, hstyle, htype, hknown⟩

end TestMigration.Rendering
