import TestMigration.Proofs.Rendering.Hygiene
import TestMigration.Proofs.Text.TargetNames
/-!
# Variables that get the name of the page

Rendered code reaches the browser through a variable of its own, which each profile names. Variables
and parameters of the source get their names in the target without regard to it. So a variable of
the source takes the place of the page exactly if its name becomes that of the page, which depends
on the name alone (`BecomesPage`); and the names that a body binds are those of its own actions, of
the page objects of the setup, and of the methods spliced into it (`pageRef_bound_iff`).
-/

namespace TestMigration.Rendering

open TestMigration.Action Text Profile

/-! ### Names -/

/-- A name becomes that of the page: it is `page`, which snake case also makes of a name with
capitals, unless all its letters are capitals. -/
def BecomesPage (p : Profile) (name : String) : Prop :=
  name = "page" ∨ p.naming.identifiers = .snake ∧ isConstantName name = false ∧
    SameWords name "page"

instance (p : Profile) (name : String) : Decidable (BecomesPage p name) :=
  inferInstanceAs (Decidable (_ ∨ _))

/-- No built-in profile has the word for a keyword. -/
theorem page_written : ∀ p ∈ builtins, p.naming.written "page" = "page" ∧
    p.naming.ident "page" = p.pageRef ∧ "page" ∉ p.naming.keywords := by
  decide +kernel

theorem spelledAlike_page_iff {p : Profile} {name : String} :
    SpelledAlike p.naming name "page" ↔ BecomesPage p name := by
  have hpage : isConstantName "page" = false ∧ snakeCase "page" = "page" := by decide +kernel
  refine or_congr_right (and_congr_right fun _ => ⟨?_, fun h => .inl ⟨h.1, hpage.1, h.2⟩⟩)
  rintro (⟨hname, -, hwords⟩ | ⟨hname, -, heq⟩ | ⟨-, hconst, -⟩)
  · exact ⟨hname, hwords⟩
  · rw [hpage.2] at heq
    rw [heq] at hname
    cases hname
  · cases hconst

/-- **Which names become that of the page.** -/
theorem ident_eq_pageRef_iff {p : Profile} (hp : p ∈ builtins) {name : String} :
    p.naming.ident name = p.pageRef ↔ BecomesPage p name := by
  obtain ⟨hwritten, hident, hkeyword⟩ := page_written p hp
  rw [← hident, ident_eq_iff (plainKeywords_builtin p hp), Clash, spelledAlike_page_iff]
  refine or_iff_left ?_
  rintro (⟨-, hsuffix⟩ | ⟨hmem, -⟩)
  · -- The word does not end in the underscore that a keyword gets.
    have hends : endsWith "_" "page" = true := by
      rw [endsWith, List.isSuffixOf_iff_suffix, ← hwritten, hsuffix, String.toList_append]
      exact List.suffix_append _ _
    exact absurd hends (by decide +kernel)
  · exact hkeyword (hwritten ▸ hmem)

example : BecomesPage playwrightPython "Page" ∧ ¬BecomesPage playwrightPython "PAGE" ∧
    ¬BecomesPage playwrightTs "Page" := by decide +kernel

/-! ### The variables of a body -/

/-- The variables of the source that a body has lines for. -/
def SourceName (env : Env) (f : Frame) (actions : List Action) (name : String) : Prop :=
  name ∈ (startObjects env ((f.withObjects env).starting actions) actions).map (·.1) ∨
    name ∈ (all actions).map boundName ∨ Local env name

/-- No line gives a value to a variable with the name of the page. -/
def PageKept (p : Profile) (pieces : List Piece) : Prop :=
  ∀ x ∈ linesAt 0 pieces, x.2.target ≠ p.pageRef

instance (p : Profile) (pieces : List Piece) : Decidable (PageKept p pieces) :=
  inferInstanceAs (Decidable (∀ x ∈ linesAt 0 pieces, _))

variable {env : Env} {s s' : State}

theorem sourceName_renderedOutline (env : Env) (f : Frame) (actions : List Action) (depth : Nat) :
    ∀ x ∈ linesAt depth (renderedOutline env f actions).1, SourceName env f actions x.2.name := by
  have hstems : Stems env (SourceName env f actions) (renderedOutline env f actions).1 := by
    refine (stems_givenLines fun b hb => .inl ?_).append (stems_outline (stems_splicedOutline _)
      actions _ fun b hb => .inr (.inl (List.mem_map_of_mem hb)))
    obtain ⟨_, hobject, rfl⟩ := List.mem_map.mp hb
    exact List.mem_map_of_mem hobject
  intro x hx
  rcases (hstems depth).2 x hx with ⟨-, hown⟩ | ⟨-, hlocal⟩
  · exact hown
  · exact .inr (.inr hlocal)

theorem sourceName_hookOutline (env : Env) (label : String) (declared : List String)
    (methods : List (SourceUnit × Method)) :
    ∀ x ∈ linesAt 0 (hookOutline env label declared methods),
      ∃ entry ∈ methods, ∃ f : Frame, f.unit = entry.1 ∧ f.mode = .test ∧
        SourceName env f entry.2.actions x.2.name := by
  induction methods generalizing declared with
  | nil => exact fun x hx => by simp [hookOutline, linesAt] at hx
  | cons entry _ ih =>
    refine List.forall_mem_append.mpr ⟨fun x hx => ?_, fun x hx => ?_⟩
    · exact ⟨entry, List.mem_cons_self, _, rfl, rfl, sourceName_renderedOutline env _ _ _ x hx⟩
    · obtain ⟨other, hother, hname⟩ := ih _ x hx
      exact ⟨other, List.mem_cons_of_mem _ hother, hname⟩

theorem pageKept_iff (hp : env.profile ∈ builtins) {pieces : List Piece}
    (h : Named env (linesAt 0 pieces)) :
    PageKept env.profile pieces ↔ ∀ x ∈ linesAt 0 pieces, ¬BecomesPage env.profile x.2.name := by
  refine forall₂_congr fun x hx => ?_
  rw [h x hx, ne_eq, ident_eq_pageRef_iff hp]

/-! ### Parameters -/

/-- How a parameter is written: one for the browser is the page, any other has its identifier. -/
def ParamWritten (p : Profile) (param : Param) (text : String) : Prop :=
  if isDriverParam param then text = p.files.pageParam
  else ∃ type, text = if type =
    "" then fill p.files.untypedParam [("name", p.naming.ident param.name)]
    else fill p.files.param [("name", p.naming.ident param.name), ("type", type)]

theorem paramText_written {name typeName text : String}
    (hrun : (paramText name typeName).run env s = (.ok text, s')) :
    ∃ type, text = if type = "" then fill env.profile.files.untypedParam [("name", name)]
      else fill env.profile.files.param [("name", name), ("type", type)] := by
  unfold paramText at hrun
  rw [run_bind_ok run_profile] at hrun
  obtain ⟨type, _, -, hrest⟩ := exists_of_run_bind hrun
  refine ⟨type, ?_⟩
  simp only [String.isEmpty_iff] at hrest
  split_ifs at hrest ⊢ <;> cases hrest <;> rfl

theorem paramTexts_written {params : List Param} {texts : List String}
    (hrun : (paramTexts params).run env s = (.ok texts, s')) :
    List.Forall₂ (ParamWritten env.profile) params texts := by
  induction params generalizing s texts with
  | nil =>
    cases hrun
    exact .nil
  | cons param _ ih =>
    rw [paramTexts] at hrun
    by_cases hdriver : isDriverParam param
    · rw [if_pos hdriver] at hrun
      rw [run_bind_ok run_profile] at hrun
      obtain ⟨text, s₁, htext, hrun⟩ := exists_of_run_bind hrun
      cases htext
      obtain ⟨more, s₂, hmore, hreturn⟩ := exists_of_run_bind hrun
      cases hreturn
      exact .cons (by rw [ParamWritten, if_pos hdriver]) (ih hmore)
    · rw [if_neg hdriver] at hrun
      obtain ⟨_, s₁, hident, hrun⟩ := exists_of_run_bind hrun
      cases hident
      obtain ⟨text, s₂, htext, hrun⟩ := exists_of_run_bind hrun
      obtain ⟨more, _, hmore, hreturn⟩ := exists_of_run_bind hrun
      cases hreturn
      exact .cons (by rw [ParamWritten, if_neg hdriver]; exact paramText_written htext) (ih hmore)

/-! ### The main result -/

/-- **A variable takes the place of the page exactly if its name becomes that of the page.** The
lines of a body that give variables a value name those of its actions, of the page objects of the
setup and of methods spliced into it. Parameters that do not hold the browser are written under
their identifiers, so for them the same holds. -/
theorem pageRef_bound_iff (env : Env) (hp : env.profile ∈ builtins) :
    (∀ {actions : List Action} {f : Frame} {declared : List String} {s s' : State},
      (renderBody actions f).run env s = (.ok declared, s') →
        let pieces := (renderedOutline env f actions).1
        Drawn env.profile.phrases pieces s.code s'.code ∧ (PageKept env.profile pieces ↔
            ∀ x ∈ linesAt 0 pieces, ¬BecomesPage env.profile x.2.name) ∧
          ∀ x ∈ linesAt 0 pieces, SourceName env f actions x.2.name) ∧
      (∀ {label : String} {methods : List (SourceUnit × Method)} {s s' : State},
        (hookBodies label [] methods).run env s = (.ok (), s') →
          let pieces := hookOutline env label [] methods
          Drawn env.profile.phrases pieces s.code s'.code ∧ (PageKept env.profile pieces ↔
              ∀ x ∈ linesAt 0 pieces, ¬BecomesPage env.profile x.2.name) ∧
            ∀ x ∈ linesAt 0 pieces,
              ∃ entry ∈ methods, ∃ f : Frame, f.unit = entry.1 ∧ f.mode = .test ∧
                SourceName env f entry.2.actions x.2.name) ∧
      ∀ {params : List Param} {texts : List String} {s s' : State},
        (paramTexts params).run env s = (.ok texts, s') →
          List.Forall₂ (ParamWritten env.profile) params texts ∧
            ((∀ x ∈ params, !isDriverParam x →
              env.profile.naming.ident x.name ≠ env.profile.pageRef) ↔
              ∀ x ∈ params, !isDriverParam x → ¬BecomesPage env.profile x.name) := by
  refine ⟨fun {actions f declared s s'} hrun => ?_, fun {label methods s s'} hrun => ?_,
    fun {params texts s s'} hrun => ?_⟩
  · exact ⟨(draws_renderBody hrun).2.drawn,
      pageKept_iff hp (stems_renderedOutline env f actions 0).1,
      sourceName_renderedOutline env f actions 0⟩
  · exact ⟨(draws_hookBodies label hrun).drawn,
      pageKept_iff hp (stems_hookOutline env label [] methods).1,
      sourceName_hookOutline env label [] methods⟩
  · refine ⟨paramTexts_written hrun, forall₃_congr fun x _ _ => ?_⟩
    rw [ne_eq, ident_eq_pageRef_iff hp]

/-- A parameter for the browser, which is the page, and one with a name of its own. -/
def browserAndUrl (name : String) : List Param :=
  [{ name := "page", typeName := "WebDriver" }, { name, typeName := "String" }]

/-- A helper whose variable does not have the name of the page. -/
theorem pageRef_bound_iff_otherName :
    let env := visitEnv playwrightPython "pageUrl" (.variable "x")
    let start := visitState "pageUrl" (.variable "x")
    (∃ declared s', (renderBody (visiting (.variable "x")) start.frame).run env start =
          (.ok declared, s') ∧
        s'.code.lines =
          ["x = \"a\"", "# inlined VisitTest.visit", "page_url = \"b\"", "page.goto(x)"] ∧
        PageKept env.profile (renderedOutline env start.frame (visiting (.variable "x"))).1) ∧
      (∃ s', (hookBodies "setup" [] (visitSetup "pageUrl" (.variable "x"))).run env start =
          (.ok (), s') ∧
        PageKept env.profile (hookOutline env "setup" [] (visitSetup "pageUrl" (.variable "x")))) ∧
      ∃ s', (paramTexts (browserAndUrl "PAGE")).run env start =
          (.ok ["page: Page", "PAGE: str"], s') ∧
        ∀ x ∈ browserAndUrl "PAGE", !isDriverParam x →
          env.profile.naming.ident x.name ≠ "page" := by
  have hp : playwrightPython ∈ builtins := by simp [builtins]
  have hbody : visitRun playwrightPython "pageUrl" (.variable "x") = (.ok ["x"], _) :=
    run_eq_of_toOption (by decide +kernel)
  have hhook : (hookBodies "setup" [] (visitSetup "pageUrl" (.variable "x"))).run
      (visitEnv playwrightPython "pageUrl" (.variable "x")) (visitState "pageUrl" (.variable "x")) =
        (.ok (), _) := run_eq_of_toOption (by decide +kernel)
  have hparams : (paramTexts (browserAndUrl "PAGE")).run
      (visitEnv playwrightPython "pageUrl" (.variable "x")) (visitState "pageUrl" (.variable "x")) =
        (.ok ["page: Page", "PAGE: str"], _) := run_eq_of_toOption (by decide +kernel)
  obtain ⟨hbodies, hhooks, hparamTexts⟩ :=
    pageRef_bound_iff (visitEnv playwrightPython "pageUrl" (.variable "x")) hp
  exact ⟨⟨_, _, hbody, by decide +kernel, (hbodies hbody).2.1.mpr (by decide +kernel)⟩,
    ⟨_, hhook, (hhooks hhook).2.1.mpr (by decide +kernel)⟩,
    _, hparams, (hparamTexts hparams).2.mpr (by decide +kernel)⟩

/-- **A variable of the source can hide the page.** The helper goes to its own text, which has the
name of the page, as a name with a capital letter has in snake case; and so does a parameter. -/
theorem not_pageKept :
    let env := visitEnv playwrightPython "Page" (.variable "x")
    let start := visitState "Page" (.variable "x")
    (∃ declared s', (renderBody (visiting (.variable "x")) start.frame).run env start =
          (.ok declared, s') ∧
        s'.code.lines = ["x = \"a\"", "# inlined VisitTest.visit", "page = \"b\"", "page.goto(x)"] ∧
        ¬PageKept env.profile (renderedOutline env start.frame (visiting (.variable "x"))).1) ∧
      ∃ s', (paramTexts (browserAndUrl "page")).run env start =
        (.ok ["page: Page", "page: str"], s') := by
  have hbody : visitRun playwrightPython "Page" (.variable "x") = (.ok ["x"], _) :=
    run_eq_of_toOption (by decide +kernel)
  exact ⟨⟨_, _, hbody, by decide +kernel, by decide +kernel⟩,
    _, run_eq_of_toOption (by decide +kernel)⟩

end TestMigration.Rendering
