import TestMigration.Proofs.Rendering.PageName
/-!
# Whether the page is in scope

A rendered function gets the page as a parameter if it is not static in the source, unless a
parameter there holds the browser, which then becomes the page. The head of the function alone
decides this. Whether the body mentions the page is another matter: it does so exactly if what is
written for it depends on the text of the page (`MentionsPage`). A static function without a
parameter for the browser has no page, whatever its body mentions; and a static method of a page
object mentions the page of an object that it does not have (`page_in_scope_iff`).
-/

namespace TestMigration.Rendering

open TestMigration.Action Text Profile

variable {env : Env} {s s' : State} {m : Method} {template : String}
  {selfParam pageParam : Bool} {f : Frame}

/-- What is written for a body depends on the text of the page. -/
def MentionsPage (env : Env) (f : Frame) (actions : List Action) : Prop :=
  ∃ (page : String) (s : State), ((renderBody actions { f with page }).run env s).2.code ≠
    ((renderBody actions f).run env s).2.code

/-- The frame of the body of a function or of a method. -/
def definitionFrame (env : Env) (mode : Mode) (page : String) (m : Method) : Frame where
  unit := env.unit
  mode
  page
  body := env.unit.simpleName ++ "." ++ m.name ++ "/" ++ toString m.arity
  params := paramNames m

/-- The text of the page in the methods of a page object. -/
def memberPage (p : Profile) : String := fill p.memberPageRef [("self", p.phrases.selfRef)]

/-- A definition has been written: its head lists its parameters, and its body follows in a frame of
its own. -/
def DefinitionWritten (env : Env) (template : String) (selfParam pageParam : Bool) (f : Frame)
    (m : Method) : Prop :=
  let files := env.profile.files
  ∃ texts returns code s s' declared, List.Forall₂ (ParamWritten env.profile) m.params texts ∧
    s.code = (Code.line code (fill template [("name", env.profile.naming.ident m.name),
      ("params", join ", "
        ((if selfParam && !files.selfParam.isEmpty then [files.selfParam] else []) ++
          (if pageParam then [files.pageParam] else []) ++ texts)), ("returns", returns)])).deeper ∧
    (renderBody m.actions f).run env s = (.ok declared, s')

/-- A definition has been written between two states: behind some blank lines its head, which has a
text for each parameter, and then its body. -/
def DefinitionAdded (env : Env) (template : String) (selfParam pageParam : Bool) (f : Frame)
    (m : Method) (texts : List String) (s s' : State) : Prop :=
  let files := env.profile.files
  List.Forall₂ (ParamWritten env.profile) m.params texts ∧ ∃ returns closing gap s₁,
    s₁.code = s.code.blank gap ∧ (do
      line (fill template [("name", env.profile.naming.ident m.name),
        ("params", join ", "
          ((if selfParam && !files.selfParam.isEmpty then [files.selfParam] else []) ++
            (if pageParam then [files.pageParam] else []) ++ texts)), ("returns", returns)])
      let before ← statements
      indented do
        let _ ← renderBody m.actions f
      endBlock before closing : Render Unit).run env s₁ = (.ok (), s')

theorem definitionAdded_of_run {closing : String} {s₀ : State} {gap : Nat}
    (hstart : s.code = s₀.code.blank gap) (hrun : (do
      let params ← paramList m pageParam selfParam
      let returns ← returnText m
      line (fill template [("name", ← ident m.name), ("params", params), ("returns", returns)])
      let before ← statements
      indented do
        let _ ← renderBody m.actions f
      endBlock before closing : Render Unit).run env s = (.ok (), s')) :
    ∃ texts, DefinitionAdded env template selfParam pageParam f m texts s₀ s' := by
  obtain ⟨params, s₁, hparams, hrun⟩ := exists_of_run_bind hrun
  obtain ⟨returns, s₂, hreturns, hrun⟩ := exists_of_run_bind hrun
  have hcode : s₂.code = s.code :=
    (Keeps.of_run (R := Silent) hreturns).code.trans (Keeps.of_run (R := Silent) hparams).code
  unfold paramList at hparams
  rw [run_bind_ok run_profile] at hparams
  obtain ⟨texts, _, htexts, hreturn⟩ := exists_of_run_bind hparams
  cases hreturn
  obtain ⟨name, _, hname, hrun⟩ := exists_of_run_bind hrun
  cases hname
  exact ⟨texts, paramTexts_written htexts, returns, closing, gap, s₂, hcode.trans hstart, hrun⟩

theorem DefinitionAdded.written {texts : List String}
    (h : DefinitionAdded env template selfParam pageParam f m texts s s') :
    DefinitionWritten env template selfParam pageParam f m := by
  obtain ⟨hparams, returns, _, _, s₁, -, hrun⟩ := h
  obtain ⟨_, _, hopening, hrun⟩ := exists_of_run_bind hrun
  obtain ⟨_, _, hbefore, hrun⟩ := exists_of_run_bind hrun
  cases hbefore
  obtain ⟨_, _, hbody, -⟩ := exists_of_run_bind hrun
  obtain ⟨_, hinner, -⟩ := exists_of_run_indented hbody
  obtain ⟨declared, s₅, hrendered, -⟩ := exists_of_run_bind hinner
  cases hopening
  exact ⟨_, returns, s₁.code, _, s₅, declared, hparams, rfl, hrendered⟩

theorem functionLines_added (hrun : (functionLines m).run env s = (.ok (), s')) :
    ∃ texts, DefinitionAdded env env.profile.files.functionOpen false (implicitPage m)
      (definitionFrame env .function env.profile.pageRef m) m texts s s' := by
  unfold functionLines at hrun
  rw [run_bind_ok run_read] at hrun
  have hstart : s.code = s.code.blank 0 := by simp [Code.blank]
  exact definitionAdded_of_run hstart hrun

theorem functionLines_written (hrun : (functionLines m).run env s = (.ok (), s')) :
    DefinitionWritten env env.profile.files.functionOpen false (implicitPage m)
      (definitionFrame env .function env.profile.pageRef m) m :=
  (functionLines_added hrun).choose_spec.written

theorem pageMethodLines_added {page : String}
    (hrun : (pageMethodLines page m).run env s = (.ok (), s')) :
    ∃ texts, DefinitionAdded env
      (if m.static then env.profile.files.staticMethodOpen else env.profile.files.methodOpen)
      (!m.static) false (definitionFrame env .page page m) m texts s s' := by
  unfold pageMethodLines at hrun
  rw [run_bind_ok run_read] at hrun
  obtain ⟨_, _, hblank, hrun⟩ := exists_of_run_bind hrun
  cases hblank
  exact definitionAdded_of_run rfl hrun

theorem pageMethodLines_written {page : String}
    (hrun : (pageMethodLines page m).run env s = (.ok (), s')) :
    DefinitionWritten env
      (if m.static then env.profile.files.staticMethodOpen else env.profile.files.methodOpen)
      (!m.static) false (definitionFrame env .page page m) m :=
  (pageMethodLines_added hrun).choose_spec.written

/-- The page is in scope in a definition with a text for the page: if the body mentions the page,
the parameters hold it under that text. -/
def PageInScope (env : Env) (pageParam : Bool) (f : Frame) (m : Method) : Prop :=
  MentionsPage env f m.actions →
    (pageParam = true ∨ ∃ x ∈ m.params, isDriverParam x = true) ∧ f.page = env.profile.pageRef

/-- In a page object the page is a member of the object. -/
theorem memberPage_ne_pageRef : ∀ p ∈ builtins, memberPage p ≠ p.pageRef := by decide +kernel

example : fill playwrightTs.memberPageRef [("self", "x")] = "x.page" := by decide +kernel

/-- **When the page is in scope.** A function has the page as a parameter if it is not static, and
one for each parameter that holds the browser. So the page is in scope exactly if the function is
not static, or has such a parameter, or does not mention the page. A static method of a page object
mentions the page of the object, so it is in scope only if it is not mentioned. -/
theorem page_in_scope_iff {env : Env} (hp : env.profile ∈ builtins) (m : Method) :
    (∀ {s s' : State}, (functionLines m).run env s = (.ok (), s') →
      let f := definitionFrame env .function env.profile.pageRef m
      DefinitionWritten env env.profile.files.functionOpen false (implicitPage m) f m ∧
        (PageInScope env (implicitPage m) f m ↔
          m.static = false ∨ (∃ x ∈ m.params, isDriverParam x = true) ∨
            ¬MentionsPage env f m.actions)) ∧
      (m.static = true → ∀ {s s' : State},
        (pageMethodLines (memberPage env.profile) m).run env s = (.ok (), s') →
          let f := definitionFrame env .page (memberPage env.profile) m
          DefinitionWritten env env.profile.files.staticMethodOpen false false f m ∧
            (PageInScope env false f m ↔ ¬MentionsPage env f m.actions)) := by
  refine ⟨fun {s s'} hrun => ⟨functionLines_written hrun, ?_⟩, fun hstatic s s' hrun => ⟨?_, ?_⟩⟩
  · have himplicit : implicitPage m = true ∨ (∃ x ∈ m.params, isDriverParam x = true) ↔
        m.static = false ∨ ∃ x ∈ m.params, isDriverParam x = true := by
      unfold implicitPage
      by_cases hdriver : ∃ x ∈ m.params, isDriverParam x = true
      · simp [hdriver]
      · cases hstatic : m.static <;> simp_all
    unfold PageInScope
    rw [himplicit, ← or_assoc]
    refine ⟨fun h => or_iff_not_imp_right.mpr fun hmentions => (h (not_not.mp hmentions)).1, ?_⟩
    intro h hmentions
    exact ⟨h.resolve_right (not_not_intro hmentions), rfl⟩
  · have hwritten := pageMethodLines_written hrun
    rwa [hstatic] at hwritten
  · exact ⟨fun h hmentions => memberPage_ne_pageRef _ hp (h hmentions).2, fun h hmentions =>
      absurd hmentions h⟩

def acting (static : Bool) (actions : List Action) : Method where
  name := "open"
  params := []
  returnType := "void"
  role := .pageMethod
  static
  actions
  provenance := ⟨"F.java", 2, 4⟩

def going : List Action := [.navigate (textValue "x") ⟨"F.java", 3, 3⟩]

def actingEnv : Env where
  model := Linking.linkedModel [] []
  profile := playwrightTs
  strategy := .call
  unit := bareUnit "F.java" "F" .pageObject

abbrev functionFrame (m : Method) : Frame := definitionFrame actingEnv .function "page" m

abbrev methodFrame (m : Method) : Frame := definitionFrame actingEnv .page "this.page" m

theorem memberPage_actingEnv : memberPage actingEnv.profile = "this.page" := by decide +kernel

/-- A function goes to a page, and a static method does nothing. -/
theorem page_in_scope_iff_acting :
    (∃ s', (functionLines (acting false going)).run actingEnv
      ⟨{}, functionFrame (acting false going), {}⟩ =
        (.ok (), s') ∧
      s'.code.lines = ["export async function open(page: Page): Promise<void> \x7b",
        "  await page.goto('x');", "\x7d"] ∧
      PageInScope actingEnv true (functionFrame (acting false going)) (acting false going)) ∧
    ∃ s', (pageMethodLines "this.page" (acting true [])).run actingEnv
        ⟨{}, functionFrame (acting true []), {}⟩ = (.ok (), s') ∧
      PageInScope actingEnv false (methodFrame (acting true [])) (acting true []) := by
  have hp : actingEnv.profile ∈ builtins := by simp [actingEnv, builtins]
  have hfunction : (functionLines (acting false going)).run actingEnv
      ⟨{}, functionFrame (acting false going), {}⟩ = (.ok (), _) :=
    run_eq_of_toOption (by decide +kernel)
  have hmethod : (pageMethodLines "this.page" (acting true [])).run actingEnv
      ⟨{}, functionFrame (acting true []), {}⟩ = (.ok (), _) :=
        run_eq_of_toOption (by decide +kernel)
  refine ⟨⟨_, hfunction, by decide +kernel, ?_⟩, _, hmethod, ?_⟩
  · exact ((page_in_scope_iff hp (acting false going)).1 hfunction).2.mpr (.inl rfl)
  · rw [← memberPage_actingEnv] at hmethod
    obtain ⟨-, hscope⟩ := (page_in_scope_iff hp (acting true [])).2 rfl hmethod
    rw [memberPage_actingEnv] at hscope
    refine hscope.mpr ?_
    rintro ⟨page, s, hne⟩
    exact hne rfl

/-- What is written for going to a page depends on the text of the page. -/
theorem mentionsPage_going {f : Frame} (h : f = functionFrame (acting true going) ∨
    f = methodFrame (acting true going)) : MentionsPage actingEnv f going := by
  refine ⟨"other", ⟨{}, f, {}⟩, fun hsame => ?_⟩
  rcases h with rfl | rfl
  · exact absurd (congrArg Code.lines hsame) (by decide +kernel)
  · exact absurd (congrArg Code.lines hsame) (by decide +kernel)

/-- **The page can be out of scope.** A static function goes to a page, and a static method goes to
the page of an object, that they do not have. -/
theorem not_pageInScope_static :
    (∃ s', (functionLines (acting true going)).run actingEnv ⟨{}, functionFrame (acting true going),
      {}⟩ =
        (.ok (), s') ∧
      s'.code.lines =
        ["export async function open(): Promise<void> \x7b", "  await page.goto('x');", "\x7d"] ∧
      ¬PageInScope actingEnv false (functionFrame (acting true going)) (acting true going)) ∧
    ∃ s', (pageMethodLines "this.page" (acting true going)).run actingEnv
        ⟨{}, functionFrame (acting true going), {}⟩ = (.ok (), s') ∧
      s'.code.lines =
        ["", "static async open(): Promise<void> \x7b", "  await this.page.goto('x');", "\x7d"] ∧
      ¬PageInScope actingEnv false (methodFrame (acting true going)) (acting true going) := by
  refine ⟨⟨_, run_eq_of_toOption (by decide +kernel), by decide +kernel, fun h => ?_⟩,
    _, run_eq_of_toOption (by decide +kernel), by decide +kernel, fun h => ?_⟩
  · obtain ⟨hparam | ⟨x, hx, -⟩, -⟩ := h (mentionsPage_going (.inl rfl))
    · cases hparam
    · cases hx
  · obtain ⟨-, hpage⟩ := h (mentionsPage_going (.inr rfl))
    exact absurd hpage (by decide +kernel)

end TestMigration.Rendering
