import TestMigration.Proofs.Rendering.SourceOrder
import TestMigration.Proofs.Text.TargetNames
/-!
# What a file defines under which name

The file of a unit defines its functions or methods and, where the target wants it, its tests under
names of their own. Where two of these names are equal, the later definition replaces the earlier
one, and a call under that name reaches the later one.

Nothing prevents that: a definition gets its name from the name in the source alone, whatever the
number of parameters. So the names of a file are distinct exactly if no two names of the source
clash, and a call reaches the method it was linked to exactly if the file defines that method, and
nothing behind it has a name that clashes with its own (`names_distinct_iff`).
-/

namespace TestMigration.Rendering

open TestMigration.Action Text Profile
open scoped List

/-! ### The definitions of a file -/

/-- What a file defines under a name. -/
inductive Definition where
  | method (m : Method)
  /-- The fixture with the hooks of a suite. -/
  | hooks
  | test (t : TestCase)

def Definition.target (p : Profile) : Definition → String
  | .method m => p.naming.ident m.name
  | .hooks => "setup_and_teardown"
  | .test t => p.naming.testName t.name

/-- The methods that a unit defines under their names. -/
def definedMethods (u : SourceUnit) : List Method :=
  match u.kind with
  | .testClass | .suite => u.methodsWithRole [.helper]
  | .pageObject => u.methodsWithRole [.pageMethod]
  | .utilityModule | .support => u.methods.filter (·.role != .constructor)

/-- The tests of a suite, if the target defines tests under names. -/
def suiteTests (p : Profile) (u : SourceUnit) : List TestCase :=
  if p.language = "python" then u.tests else []

def namedTests (p : Profile) (u : SourceUnit) : List TestCase :=
  match u.kind with
  | .testClass | .suite => suiteTests p u
  | _ => []

/-- The definitions in the file of a unit, perhaps with the fixture. -/
def definitions (p : Profile) (u : SourceUnit) (fixture : Bool) : List Definition :=
  (definedMethods u).map .method ++
    ((if fixture then [.hooks] else []) ++ (namedTests p u).map .test)

/-- What a file defines under a name: the last such definition. -/
def definedUnder (p : Profile) (u : SourceUnit) (fixture : Bool) (name : String) :
    Option Definition :=
  (definitions p u fixture).reverse.find? (·.target p == name)

/-- The file defines a method, and nothing behind it has the same name. -/
structure Lasting (p : Profile) (u : SourceUnit) (fixture : Bool) (m : Method) : Prop where
  methods : ∃ before after, definedMethods u = before ++ m :: after ∧
    ∀ m' ∈ after, ¬Clash p.naming m.name m'.name
  hooks : fixture = true → p.naming.ident m.name ≠ "setup_and_teardown"
  tests : ∀ t ∈ namedTests p u, ¬TestHides p.naming t.name m.name

section Names

variable {p : Profile} {u : SourceUnit} {fixture : Bool} {m : Method}

/-- A name looked for from the end is found in the last list that has it. -/
theorem definedUnder_eq (name : String) : definedUnder p u fixture name =
    (((namedTests p u).reverse.find? fun t => p.naming.testName t.name == name).map .test).or
      (((if fixture then [.hooks] else []).find? (·.target p == name)).or
        (((definedMethods u).reverse.find? fun m =>
          p.naming.ident m.name == name).map .method)) := by
  have hfixture : (if fixture then [Definition.hooks] else []).reverse =
      if fixture then [.hooks] else [] := by cases fixture <;> rfl
  rw [definedUnder, definitions, List.reverse_append, List.reverse_append, hfixture,
    List.append_assoc, List.find?_append, List.find?_append, ← List.map_reverse, ← List.map_reverse,
    List.find?_map, List.find?_map]
  rfl

/-- **A file defines a method under its name exactly if the definition lasts.** -/
theorem definedUnder_eq_method_iff (hnaming : PlainKeywords p.naming) :
    definedUnder p u fixture (p.naming.ident m.name) = some (.method m) ↔
      Lasting p u fixture m := by
  have htests : (((namedTests p u).reverse.find? fun t =>
      p.naming.testName t.name == p.naming.ident m.name).map Definition.test) = none ↔
        ∀ t ∈ namedTests p u, ¬TestHides p.naming t.name m.name := by
    simp only [Option.map_eq_none_iff, List.find?_eq_none, List.mem_reverse, beq_iff_eq]
    refine forall₂_congr fun t _ => ?_
    rw [eq_comm, ident_eq_testName_iff hnaming]
  have hhooks : ((if fixture then [Definition.hooks] else []).find?
      (·.target p == p.naming.ident m.name)) = none ↔
        (fixture = true → p.naming.ident m.name ≠ "setup_and_teardown") := by
    cases fixture <;> simp [Definition.target, ne_comm]
  have hmethods : (((definedMethods u).reverse.find? fun m' =>
      p.naming.ident m'.name == p.naming.ident m.name).map Definition.method) = some (.method m) ↔
        ∃ before after, definedMethods u = before ++ m :: after ∧
          ∀ m' ∈ after, ¬Clash p.naming m.name m'.name := by
    have hname : ∀ m' : Method, (!(p.naming.ident m'.name == p.naming.ident m.name)) = true ↔
        ¬Clash p.naming m.name m'.name := by
      intro m'
      rw [← ident_eq_iff hnaming]
      simp [ne_comm]
    simp only [Option.map_eq_some_iff, Definition.method.injEq, exists_eq_right,
      List.find?_eq_some_iff_append, beq_self_eq_true, true_and, hname]
    constructor
    · rintro ⟨after, before, hsplit, hafter⟩
      rw [List.reverse_eq_iff] at hsplit
      exact ⟨before.reverse, after.reverse, by simp [hsplit], by simpa using hafter⟩
    · rintro ⟨before, after, hsplit, hafter⟩
      exact ⟨after.reverse, before.reverse, by simp [hsplit], by simpa using hafter⟩
  -- The tests and the fixture come last, so neither of them may have the name.
  rw [definedUnder_eq]
  constructor
  · intro h
    rw [Option.or_eq_some_iff, Option.or_eq_some_iff] at h
    rcases h with h | ⟨htest, h | ⟨hhook, h⟩⟩
    · obtain ⟨t, -, ht⟩ := Option.map_eq_some_iff.mp h
      cases ht
    · have hmem := List.mem_of_find?_eq_some h
      cases fixture <;> simp at hmem
    · exact ⟨hmethods.mp h, hhooks.mp hhook, htests.mp htest⟩
  · rintro ⟨h, hhook, htest⟩
    rw [htests.mpr htest, hhooks.mpr hhook, hmethods.mpr h]
    rfl

/-- Names are distinct exactly if no two of their origins are merged. -/
theorem nodup_map_iff {α : Type} {f : α → String} {merged : α → α → Prop}
    (h : ∀ a b, f a = f b ↔ merged a b) (l : List α) :
    (l.map f).Nodup ↔ l.Pairwise fun a b => ¬merged a b := by
  rw [List.Nodup, List.pairwise_map]
  exact List.Pairwise.iff fun a b => not_congr (h a b)

end Names

/-! ### Calls -/

variable {text : String}

/-- The page before the arguments of a function without a parameter for it. -/
def leading (page : String) (u : SourceUnit) (m : Method) : List String :=
  if u.kind ≠ .pageObject ∧ implicitPage m then [page] else []

/-- **A call is written with the name of its method.** -/
theorem exists_of_run_callText {env : Env} {c : Call} {u : SourceUnit} {m : Method}
    {args : List String} {s s' : State} (hrun : (callText c u m args).run env s = (.ok text, s')) :
    ∃ owner, text = fill env.profile.phrases.await [("expression", owner ++
      env.profile.naming.ident m.name ++ "(" ++
        join ", " (leading s.frame.page u m ++ args) ++ ")")] := by
  have hwritten : ∀ {expression : String} {s : State}, (do
      let p ← phrases
      return fill p.await [("expression", expression)] : Render String).run env s = (.ok text, s') →
        text = fill env.profile.phrases.await [("expression", expression)] := by
    intro expression s hrun
    cases hrun
    rfl
  -- The forms of a call differ in what stands before the name and among the arguments only.
  obtain ⟨_, _, hname, hrun⟩ := exists_of_run_bind hrun
  cases hname
  split at hrun
  · obtain ⟨receiver, s₂, -, hrun⟩ := exists_of_run_bind hrun
    rw [leading, if_neg fun h => h.1 ‹_›]
    exact ⟨receiver ++ ".", hwritten hrun⟩
  · obtain ⟨f, s₂, hframe, hrun⟩ := exists_of_run_bind hrun
    cases hframe
    rw [run_bind_ok run_read] at hrun
    have hargs : ∀ page, leading page u m ++ args =
        if implicitPage m then page :: args else args := by
      unfold leading
      intro page
      split <;> simp_all
    rw [← hargs] at hrun
    have hplain : ∀ arguments, env.profile.naming.ident m.name ++ "(" ++
      join ", " arguments ++ ")" =
        "" ++ env.profile.naming.ident m.name ++ "(" ++ join ", " arguments ++ ")" := by simp
    split at hrun
    · exact ⟨"", hplain _ ▸ hwritten hrun⟩
    · split at hrun
      · exact ⟨"", hplain _ ▸ hwritten hrun⟩
      · obtain ⟨owner, _, -, hrun⟩ := exists_of_run_bind hrun
        exact ⟨owner ++ ".", by simpa [String.append_assoc] using hwritten hrun⟩

/-! ### The heads of definitions -/

def definer (p : Profile) (u : SourceUnit) : String :=
  if p.language = "python" then "def " else if u.kind = .pageObject then "async " else "function "

def Definition.head (p : Profile) (u : SourceUnit) (d : Definition) : String :=
  definer p u ++ d.target p ++ "("

/-- The head lines of definitions; a head has one line, unless its name has a line break. -/
def headLines (p : Profile) (u : SourceUnit) (ds : List Definition) : List String :=
  ds.flatMap fun d => splitOn "\n" (d.head p u)

theorem headLines_append (p : Profile) (u : SourceUnit) (ds ds' : List Definition) :
    headLines p u (ds ++ ds') = headLines p u ds ++ headLines p u ds' := List.flatMap_append

/-- A template that opens a definition writes the name where it belongs. -/
theorem occurs_fill_name {template : String} (opening start rest : String)
    (h : template = opening ++ start ++ ("$name(" ++ rest))
    (hplain : '$' ∉ (opening ++ start).toList)
    {values : List (String × String)} {name : String} (hname : values.lookup "name" = some name) :
    start.toList ++ name.toList ++ ['('] <:+: (fill template values).toList := by
  have hslot : Template.fillFrom values .plain ("$name(" ++ rest).toList =
      name.toList ++ '(' :: Template.fillFrom values .plain rest.toList := by
    simp [Template.fillFrom, Template.State.step, Template.State.plainStep, Template.isNameStart,
      Template.isNameChar, Template.State.flush, Template.slot, hname]
  refine ⟨opening.toList, Template.fillFrom values .plain rest.toList, ?_⟩
  rw [fill, h, String.toList_append, fillFrom_plain_append _ hplain, hslot]
  simp

def methodTemplate (p : Profile) (u : SourceUnit) (m : Method) : String :=
  if u.kind = .pageObject then
    if m.static then p.files.staticMethodOpen else p.files.methodOpen
  else p.files.functionOpen

section Heads

variable {p : Profile} {u : SourceUnit}

theorem toList_head (d : Definition) :
    (d.head p u).toList = (definer p u).toList ++ (d.target p).toList ++ ['('] := by
  simp [Definition.head]

theorem occurs_head_method (h : p ∈ builtins) (m : Method) (params returns : String) :
    ((Definition.method m).head p u).toList <:+: (fill (methodTemplate p u m)
      [("name", p.naming.ident m.name), ("params", params), ("returns", returns)]).toList := by
  rw [toList_head]
  unfold definer methodTemplate
  rcases List.mem_pair.mp h with rfl | rfl
  · rw [if_pos (by decide)]
    split
    · split
      · exact occurs_fill_name "@staticmethod\n" _ "$params)$returns:" rfl (by simp) rfl
      · exact occurs_fill_name "" _ "$params)$returns:" rfl (by simp) rfl
    · exact occurs_fill_name "" _ "$params)$returns:" rfl (by simp) rfl
  · rw [if_neg (by decide)]
    split
    · split
      · exact occurs_fill_name "static " _ "$params)$returns \x7b" rfl (by simp) rfl
      · exact occurs_fill_name "" _ "$params)$returns \x7b" rfl (by simp) rfl
    · exact occurs_fill_name "export async " _ "$params)$returns \x7b" rfl (by simp) rfl

theorem occurs_head_test (h : p ∈ builtins) (hnamed : p.language = "python") (t : TestCase)
    (title : String) : ((Definition.test t).head p u).toList <:+:
      (fill (if t.disabled then p.files.testDisabledOpen else p.files.testOpen)
        [("title", title), ("name", p.naming.testName t.name)]).toList := by
  rw [toList_head, definer, if_pos hnamed]
  rcases List.mem_pair.mp h with rfl | rfl
  · split
    · exact occurs_fill_name "@pytest.mark.skip(reason=\"disabled in source\")\n" _
        "page: Page):" rfl (by simp) rfl
    · exact occurs_fill_name "" _ "page: Page):" rfl (by simp) rfl
  · exact absurd hnamed (by decide)

theorem occurs_head_hooks (h : p ∈ builtins) (hopen : p.files.hooksOpen.isEmpty = false) :
    (Definition.hooks.head p u).toList <:+: p.files.hooksOpen.toList := by
  unfold Definition.head definer
  rcases List.mem_pair.mp h with rfl | rfl
  · have htemplate : playwrightPython.files.hooksOpen = "@pytest.fixture(autouse=True)\n" ++
        ("def " ++ "setup_and_teardown" ++ "(") ++ "page: Page):" := rfl
    refine ⟨"@pytest.fixture(autouse=True)\n".toList, "page: Page):".toList, ?_⟩
    rw [← String.toList_append, ← String.toList_append]
    exact congrArg String.toList htemplate.symm
  · exact absurd hopen (by decide)

end Heads

/-! ### Writing definitions -/

/-- The lines of a text in another one: the first ends a line or stands inside of one. -/
theorem exists_splitOn_append (h more : List Char) : ∃ first rest first' rest',
    h.splitOn '\n' = first :: rest ∧ (h ++ more).splitOn '\n' = first' :: rest' ∧ first <+: first' ∧
      List.SublistForall₂ (· <:+: ·) rest rest' := by
  induction h with
  | nil =>
    obtain ⟨first', rest', hmore⟩ := List.exists_cons_of_ne_nil (List.splitOn_ne_nil '\n' more)
    exact ⟨[], [], first', rest', rfl, hmore, List.nil_prefix, .nil⟩
  | cons c h ih =>
    obtain ⟨first, rest, first', rest', hh, hmore, hfirst, hrest⟩ := ih
    rw [List.cons_append, List.splitOn_cons_eq_if_modifyHead, List.splitOn_cons_eq_if_modifyHead,
      hh, hmore]
    by_cases hc : c = '\n'
    · exact ⟨[], first :: rest, [], first' :: rest', by simp [hc], by simp [hc], List.prefix_rfl,
        .cons hfirst.isInfix hrest⟩
    · exact ⟨c :: first, rest, c :: first', rest', by simp [hc], by simp [hc],
        (List.prefix_cons_inj c).mpr hfirst, hrest⟩

theorem sublistForall₂_splitOn (before h after : List Char) :
    List.SublistForall₂ (· <:+: ·) (h.splitOn '\n') ((before ++ h ++ after).splitOn '\n') := by
  induction before with
  | nil =>
    obtain ⟨first, rest, _, _, hh, hmore, hfirst, hrest⟩ := exists_splitOn_append h after
    rw [List.nil_append, hh, hmore]
    exact .cons hfirst.isInfix hrest
  | cons c before ih =>
    rw [List.cons_append, List.cons_append, List.splitOn_cons_eq_if_modifyHead]
    split
    · exact .cons_right ih
    · -- The character goes to the front of the first line, where no part needs it.
      cases hlines : (before ++ h ++ after).splitOn '\n' with
      | nil => exact absurd hlines (List.splitOn_ne_nil _ _)
      | cons first rest =>
        rw [hlines] at ih
        generalize h.splitOn '\n' = parts at ih ⊢
        cases ih with
        | nil => exact .nil
        | cons hfirst hrest => exact .cons (hfirst.trans (List.suffix_cons c first).isInfix) hrest
        | cons_right hrest => exact .cons_right hrest

theorem anchored_splitOn {whole : String} (h : text.toList <:+: whole.toList) :
    Anchored (splitOn "\n" text) (splitOn "\n" whole) := by
  have hbreak : "\n".toList = ['\n'] := by decide
  obtain ⟨before, after, h⟩ := h
  unfold Anchored splitOn
  rw [← h, hbreak, splitAtAll_singleton, splitAtAll_singleton, List.sublistForall₂_map_left_iff,
    List.sublistForall₂_map_right_iff]
  simpa only [String.toList_ofList] using sublistForall₂_splitOn before text.toList after

instance : Lining fun texts lines (_ _ : State) => Anchored texts lines where
  trans h h' := h.append h'
  mono h hsub := h.mono hsub
  idle _ := anchored_nil _
  bare _ := anchored_nil _
  apart h _ _ := h

/-- A step that writes lines in which the given texts lie. -/
abbrev Writes {α : Type} (env : Env) (texts : List String) (x : Render α) : Prop :=
  Lines (fun texts lines (_ _ : State) => Anchored texts lines) env texts x

section Writes

variable {α β : Type} {env : Env} {texts : List String}
variable {whole : String}

theorem Lines.writes {ι : Type} {L : List ι → List String → State → State → Prop} {items : List ι}
    {x : Render α} (h : Lines L env items x) : Writes env [] x := by
  refine ⟨fun hrun => ?_⟩
  obtain ⟨lines, hlines, -⟩ := h.added hrun
  exact ⟨lines, hlines, anchored_nil lines⟩

theorem Writes.withIdent {name : String} {f : String → Render β}
    (hf : Writes env texts (f (env.profile.naming.ident name))) :
    Writes env texts (ident name >>= f) :=
  ⟨fun hrun => hf.added hrun⟩

theorem writes_line {text : String} (h : text.toList <:+: whole.toList) :
    Writes env (splitOn "\n" text) (line whole) := by
  refine ⟨fun {s _ _} hrun => ?_⟩
  cases hrun
  unfold Code.line
  split
  · rename_i hempty
    rw [String.isEmpty_iff.mp hempty] at h
    have hlines := anchored_splitOn h
    exact ⟨_, rfl, hlines⟩
  · refine ⟨_, rfl, ?_⟩
    -- A line of the code is a line of the text behind a margin.
    obtain ⟨_, hfound, hsub⟩ := List.sublistForall₂_iff.mp (anchored_splitOn h)
    refine List.sublistForall₂_iff.mpr ⟨_, ?_, hsub.map _⟩
    rw [List.forall₂_map_right_iff]
    refine hfound.imp fun part whole hpart => ?_
    split
    · rename_i hempty
      rwa [String.isEmpty_iff.mp hempty] at hpart
    · rw [String.toList_append]
      exact hpart.trans (List.suffix_append _ _).isInfix

/-- The lines of a definition: its head, and the rest of a body. -/
theorem writes_definition {closing : String} {x : Render Unit}
    (hline : Writes env texts (line whole)) (hx : Writes env [] x) :
    Writes env texts (do
      line whole
      let before ← statements
      indented x
      endBlock before closing) :=
  hline.last fun _ => Lines.after fun _ => hx.indented.before

end Writes

/-! ### The functions that write a file -/

section File

variable {env : Env} [HoldsValues env.profile.phrases]
variable {setups teardowns : List (SourceUnit × Method)} {level : Nat} {s s' : State}

variable (hprofile : env.profile ∈ builtins)
include hprofile

theorem writes_functionLines (hkind : env.unit.kind ≠ .pageObject)
    (m : Method) : Writes env (splitOn "\n" ((Definition.method m).head env.profile env.unit))
      (functionLines m) := by
  have hopen := fun params returns =>
    @occurs_head_method env.profile env.unit hprofile m params returns
  rw [methodTemplate, if_neg hkind] at hopen
  refine .withEnv ?_
  refine .after fun params => Lines.after fun returns => Writes.withIdent ?_
  exact writes_definition (writes_line (hopen params returns)) (Lines.writes (Lines.before
    (files_renderBody (b := methodBody .function env.unit m) rfl rfl rfl rfl rfl)))

theorem writes_pageMethodLines (hkind : env.unit.kind = .pageObject)
    (memberPage : String) (m : Method) :
    Writes env (splitOn "\n" ((Definition.method m).head env.profile env.unit))
      (pageMethodLines memberPage m) := by
  have hopen := fun params returns =>
    @occurs_head_method env.profile env.unit hprofile m params returns
  rw [methodTemplate, if_pos hkind] at hopen
  refine .withEnv ?_
  refine .after fun _ => Lines.after fun params => Lines.after fun returns =>
    Writes.withIdent ?_
  exact writes_definition (writes_line (hopen params returns)) (Lines.writes (Lines.before
    (files_renderBody (b := methodBody .page env.unit m) rfl rfl rfl rfl rfl)))

theorem writes_testLines (hnamed : env.profile.language = "python") (t : TestCase) :
    Writes env (splitOn "\n" ((Definition.test t).head env.profile env.unit)) (testLines t) := by
  have hbody : Files env [testBody env.unit t] (renderBody t.actions
      { unit := env.unit, mode := .test, page := env.profile.pageRef, body := "test:" ++
        t.name }) :=
    files_renderBody rfl rfl rfl rfl rfl
  refine .withEnv ?_
  refine writes_definition (writes_line (occurs_head_test hprofile hnamed t _)) ?_
  split
  · exact .after fun _ => hbody.writes.before
  · exact hbody.writes.before

omit hprofile [HoldsValues env.profile.phrases] in
theorem headLines_map {β : Type} (f : β → Definition) (l : List β) :
    headLines env.profile env.unit (l.map f) =
      l.flatMap fun b => splitOn "\n" ((f b).head env.profile env.unit) := List.flatMap_map ..

theorem anchored_hookFixture
    (hopen : env.profile.files.hooksOpen.isEmpty = false) {code : Option Code}
    (hrun : (hookFixture setups teardowns level).run env s = (.ok code, s')) :
    Anchored (headLines env.profile env.unit (if code.isSome then [.hooks] else []))
      (linesOf code.toList) := by
  unfold hookFixture at hrun
  rw [run_bind_ok run_profile] at hrun
  split at hrun
  · cases hrun
    exact anchored_nil _
  · obtain ⟨⟨written, group⟩, _, hgroup, hreturn⟩ := exists_of_run_bind hrun
    cases hreturn
    cases written with
    | false => exact anchored_nil _
    | true =>
      obtain ⟨_, s₂, -, hempty, hinner, hcode, -⟩ := exists_of_run_lineGroup hgroup
      have hopening : Writes env _ (line env.profile.files.hooksOpen) :=
        writes_line (occurs_head_hooks (u := env.unit) hprofile hopen)
      obtain ⟨lines, hlines, hhead⟩ := (hopening.last fun _ => Lines.after fun _ =>
        (files_hookBodies "setup" [] setups).writes.indented.last fun _ => Lines.after fun _ =>
          (Lines.after fun _ =>
            (files_hookBodies "teardown" [] teardowns).writes).indented.before).added hinner
      have hgrouped : group.lines = lines := by
        rw [show group = s₂.code from hcode, hlines, hempty, List.nil_append]
      simpa [headLines, linesOf, hgrouped] using hhead

theorem anchored_hookBlocks {codes : List Code}
    (hrun : (hookBlocks setups teardowns level).run env s = (.ok codes, s')) :
    Anchored (headLines env.profile env.unit
      (if !env.profile.files.hooksOpen.isEmpty && !codes.isEmpty then [.hooks] else []))
      (linesOf codes) := by
  unfold hookBlocks at hrun
  rw [run_bind_ok run_profile] at hrun
  dsimp only at hrun
  split at hrun
  · rename_i hopen
    rw [hopen]
    exact anchored_nil _
  · rename_i hopen
    obtain ⟨code, _, hfixture, hreturn⟩ := exists_of_run_bind hrun
    cases hreturn
    have hopen : env.profile.files.hooksOpen.isEmpty = false := by simpa using hopen
    have hwritten : (!env.profile.files.hooksOpen.isEmpty && !code.toList.isEmpty) =
        code.isSome := by
      cases code <;> simp [hopen]
    rw [hwritten]
    exact anchored_hookFixture hprofile hopen hfixture

def unitHeads : UnitLining (fun texts lines (_ _ : State) => Anchored texts lines) env where
  function m := splitOn "\n" ((Definition.method m).head env.profile env.unit)
  pageMethod m := splitOn "\n" ((Definition.method m).head env.profile env.unit)
  opening := []
  hooks := headLines env.profile env.unit (if hasFixture env then [.hooks] else [])
  test t := if env.profile.language = "python" then
    splitOn "\n" ((Definition.test t).head env.profile env.unit) else []
  functions := writes_functionLines hprofile
  pageMethods := writes_pageMethodLines hprofile
  constructors base page := (files_constructorLines base page).writes
  tests t := by
    split
    · exact writes_testLines hprofile ‹_› t
    · exact (files_testLines t).writes
  blocks hkind htests hstart hchain hrun := by
    rw [hasFixture_eq hkind htests hstart hchain hrun]
    exact anchored_hookBlocks hprofile hrun

theorem items_unitHeads : (unitHeads hprofile).items =
    headLines env.profile env.unit (definitions env.profile env.unit (hasFixture env)) := by
  have hsuite : (unitHeads hprofile).suiteItems = headLines env.profile env.unit
      ((if hasFixture env then [.hooks] else []) ++
        (suiteTests env.profile env.unit).map .test) := by
    unfold UnitLining.suiteItems suiteTests
    split
    · rename_i htests
      have hnone : hasFixture env = false := by simp [hasFixture, htests]
      simp [hnone, List.isEmpty_iff.mp htests, headLines]
    · rw [headLines_append, headLines_map]
      by_cases hnamed : env.profile.language = "python" <;> simp [unitHeads, hnamed]
  have hnone : (env.unit.kind ≠ .testClass ∧ env.unit.kind ≠ .suite) → hasFixture env = false := by
    simp +contextual [hasFixture]
  unfold UnitLining.items definitions definedMethods namedTests
  cases hkind : env.unit.kind with
  | testClass | suite =>
    rw [hsuite, headLines_append _ _ (List.map ..), headLines_map]
    rfl
  | pageObject | utilityModule | support =>
    rw [hnone (by simp [hkind])]
    simp [unitHeads, headLines, List.flatMap_map]

/-- **The definitions of a unit stand in its text in order.** -/
theorem placed_definitions {path text : String}
    {s : Session} (h : renderTo env path = .ok (.ok text, s)) :
    Placed text.toList 0 ((headLines env.profile env.unit
      (definitions env.profile env.unit (hasFixture env))).map String.toList) := by
  obtain ⟨r, _, _, hsections, -, -, hplaced⟩ := exists_sections_of_renderTo hprofile h
  have hheads := (unitHeads hprofile).unitSections hsections
  rw [items_unitHeads] at hheads
  exact hplaced hheads

end File

/-! ### The main result -/

/-- **The names in a file are distinct exactly if the names of the source do not clash**, and a call
that was linked to a method of the unit finds it in the file under the name it is written with
exactly if its definition lasts. The unit has been rendered with a profile that comes with the
program, and the call may stand in any unit. -/
theorem names_distinct_iff {env : Env} (hprofile : env.profile ∈ builtins) {path text : String}
    {s : Session} (h : renderTo env path = .ok (.ok text, s)) :
    Placed text.toList 0 ((headLines env.profile env.unit
        (definitions env.profile env.unit (hasFixture env))).map String.toList) ∧
      (((namedTests env.profile env.unit).map fun t => env.profile.naming.testName t.name).Nodup ↔
        (namedTests env.profile env.unit).Pairwise fun t t' =>
          ¬TestsClash env.profile.naming t.name t'.name) ∧
      (((definedMethods env.unit).map fun m => env.profile.naming.ident m.name).Nodup ↔
        (definedMethods env.unit).Pairwise fun m m' => ¬Clash env.profile.naming m.name m'.name) ∧
      ∀ {c : Call} {key : MethodKey} {m : Method}, env.model.resolve? c = some key →
        env.model.unit key.unitName = .ok env.unit → env.model.method key = .ok m →
          (∀ {v : SourceUnit} {args : List String} {s s' : State} {call : String},
            (callText c env.unit m args).run { env with unit := v } s = (.ok call, s') →
              ∃ owner arguments, call = fill env.profile.phrases.await [("expression",
                owner ++ env.profile.naming.ident m.name ++ "(" ++ join ", " arguments ++ ")")]) ∧
          (definedUnder env.profile env.unit (hasFixture env) (env.profile.naming.ident m.name) =
              some (.method m) ↔ Lasting env.profile env.unit (hasFixture env) m) := by
  have hvalues := holdsValues_of_mem_builtins hprofile
  have hnaming := plainKeywords_builtin _ hprofile
  refine ⟨placed_definitions hprofile h, nodup_map_iff (fun t t' => testName_eq_iff hnaming) _,
    nodup_map_iff (fun m m' => ident_eq_iff hnaming) _, fun _ _ _ => ⟨?_, ?_⟩⟩
  · intro v args s s' call hrun
    obtain ⟨owner, rfl⟩ := exists_of_run_callText hrun
    exact ⟨owner, _, rfl⟩
  · exact definedUnder_eq_method_iff hnaming

def visitMethod (params : List String) : Method where
  name := "visit"
  params := params.map fun name => { name, typeName := "String" }
  returnType := "void"
  role := .helper
  actions := []
  provenance := ⟨"Login.java", 2, 4⟩

def visitCall (id : String) : Call := .mk id "LoginTest" "visit" [] .self "" "visit()"

def visitTest (name : String) : TestCase where
  name
  actions := [.delegate { call := visitCall name, provenance := ⟨"Login.java", 7, 7⟩ }]
  provenance := ⟨"Login.java", 6, 8⟩

def loginEnv (profile : Profile) (methods : List (List String)) (tests : List String) : Env where
  model := Linking.linkedModel [loginUnit] []
  profile
  strategy := .call
  unit := loginUnit
where
  loginUnit : SourceUnit :=
    { bareUnit "Login.java" "LoginTest" .testClass with
      methods := methods.map visitMethod, tests := tests.map visitTest }

theorem exists_renderTo_loginEnv {profile : Profile} {methods : List (List String)}
    {tests : List String}
    {path : String} (h : (renderTo (loginEnv profile methods tests) path).toOption.any
      (·.1.isOk) = true) :
    ∃ text s, renderTo (loginEnv profile methods tests) path = .ok (.ok text, s) := by
  obtain ⟨_ | text, s, hrun, hwhole⟩ := exists_of_any h
  · cases hwhole
  · exact ⟨text, s, hrun⟩

/-- Methods and tests with names of their own are all found. -/
theorem names_distinct_iff_ownNames :
    let env := loginEnv playwrightPython [[]] ["login", "logout"]
    ∃ text s, renderTo env "login_test.py" = .ok (.ok text, s) ∧
      ((namedTests env.profile env.unit).map fun t => env.profile.naming.testName t.name) =
        ["test_login", "test_logout"] ∧
      ((namedTests env.profile env.unit).map fun t => env.profile.naming.testName t.name).Nodup ∧
      ((definedMethods env.unit).map fun m => env.profile.naming.ident m.name).Nodup ∧
      env.model.resolve? (visitCall "login") = some ⟨"Login.java", "visit", 0⟩ ∧
      definedUnder env.profile env.unit (hasFixture env) "visit" =
        some (.method (visitMethod [])) := by
  obtain ⟨text, s, hrun⟩ : ∃ text s, renderTo (loginEnv playwrightPython [[]] ["login", "logout"])
      "login_test.py" = .ok (.ok text, s) := exists_renderTo_loginEnv (by decide +kernel)
  have hresolve : (loginEnv playwrightPython [[]] ["login", "logout"]).model.resolve?
      (visitCall "login") = some ⟨"Login.java", "visit", 0⟩ := by decide +kernel
  obtain ⟨-, htests, hmethods, hcalls⟩ := names_distinct_iff (List.mem_cons_self ..) hrun
  refine ⟨text, s, hrun, by decide +kernel, htests.mpr (by decide +kernel),
    hmethods.mpr (by decide +kernel), hresolve, ?_⟩
  exact (hcalls hresolve rfl rfl).2.mpr ⟨⟨[], [], rfl, by simp⟩, fun _ => by decide +kernel,
    by decide +kernel⟩

def Definition.arity : Definition → Nat
  | .method m => m.arity
  | _ => 0

def overloadedVisit : Env := loginEnv playwrightTs [[], ["url"]] ["login"]

/-- Two tests, of which one begins as the names of tests do. -/
def startedLogin : Env := loginEnv playwrightPython [[]] ["login", "testLogin"]

/-- **Of two methods with one name only the last is found**, also by a call that was linked to the
first; and two tests get one name if one begins as the names of tests do. -/
theorem names_not_distinct_overloads :
    ((∃ text s, renderTo overloadedVisit "LoginTest.spec.ts" = .ok (.ok text, s)) ∧
      ¬((definedMethods overloadedVisit.unit).map fun m =>
        overloadedVisit.profile.naming.ident m.name).Nodup ∧
      overloadedVisit.model.resolve? (visitCall "login") = some ⟨"Login.java", "visit", 0⟩ ∧
      ∀ fixture, (definedUnder overloadedVisit.profile overloadedVisit.unit fixture "visit").map
        Definition.arity = some 1) ∧
    (∃ text s, renderTo startedLogin "login_test.py" = .ok (.ok text, s)) ∧
      ((namedTests startedLogin.profile startedLogin.unit).map fun t =>
        startedLogin.profile.naming.testName t.name) = ["test_login", "test_login"] := by
  refine ⟨⟨exists_renderTo_loginEnv (by decide +kernel), by decide +kernel, by decide +kernel, ?_⟩,
    exists_renderTo_loginEnv (by decide +kernel), by decide +kernel⟩
  intro fixture
  cases fixture <;> decide +kernel

end TestMigration.Rendering
