import TestMigration.Proofs.Rendering.DefinedNames
import TestMigration.Proofs.Rendering.PageScope
/-!
# Arguments and parameters

A call and the definition it leads to are written apart from each other, often in two files. They
agree all the same (`arguments_match_parameters`): each argument of the source stands where its
parameter does, and the page stands before the arguments exactly if it stands before the parameters.
-/

namespace TestMigration.Rendering

open TestMigration.Action Text Profile Linking

variable {env : Env} {s s' : State} {field : LocatorField → Render String} {m : Method}
variable {model : Model} {key : MethodKey}

/-- The unit writes a method between two states, as a function or as a method of a page object. -/
def Emits (env : Env) (m : Method) (s s' : State) : Prop :=
  env.unit.kind ≠ .pageObject ∧ (functionLines m).run env s = (.ok (), s') ∨
    env.unit.kind = .pageObject ∧ ∃ page, (pageMethodLines page m).run env s = (.ok (), s')

/-- A definition has the page before its parameters if it is that of a function which takes the page
without declaring it. -/
theorem Emits.exists_definition (h : Emits env m s s') : ∃ f params, DefinitionAdded env
    (methodTemplate env.profile env.unit m) (env.unit.kind = .pageObject && !m.static)
    (env.unit.kind ≠ .pageObject ∧ implicitPage m) f m params s s' := by
  unfold methodTemplate
  rcases h with ⟨hkind, hrun⟩ | ⟨hkind, page, hrun⟩
  · simpa [hkind] using ⟨_, functionLines_added hrun⟩
  · simpa [hkind] using ⟨_, pageMethodLines_added hrun⟩

example : ∀ b, implicitPage ⟨"f", [], "", .helper, [], ⟨"", 1, 1⟩, b⟩ = !b := by decide +kernel

/-- How an argument is written. -/
def ArgWritten (env : Env) (field : LocatorField → Render String) (v : Value) (text : String) :
    Prop :=
  ∃ s s', (value field v).run env s = (.ok text, s')

theorem valueList_written {vs : List Value} {texts : List String}
    (hrun : (valueList field vs).run env s = (.ok texts, s')) :
    List.Forall₂ (ArgWritten env field) vs texts := by
  induction vs generalizing s texts with
  | nil =>
    cases hrun
    exact .nil
  | cons v _ ih =>
    rw [valueList] at hrun
    obtain ⟨text, s₁, htext, hrun⟩ := exists_of_run_bind hrun
    obtain ⟨more, _, hmore, hreturn⟩ := exists_of_run_bind hrun
    cases hreturn
    exact .cons ⟨s, s₁, htext⟩ (ih hmore)

/-- The method of a key has as many parameters as the key says. -/
theorem arity_of_method (h : model.method key = .ok m) : m.params.length = key.arity := by
  obtain ⟨u, -, h⟩ := bind_eq_ok_iff.mp h
  cases hfound : u.findMethods key.method (some key.arity) with
  | nil =>
    rw [hfound] at h
    cases h
  | cons =>
    rw [hfound] at h
    cases h
    have hmatches := (List.mem_filter.mp (hfound ▸ List.mem_cons_self)).2
    simp only [Option.all_some, Bool.and_eq_true, beq_iff_eq] at hmatches
    exact hmatches.2

/-- A call that a linked model resolves has as many arguments as its method has parameters, if calls
with its identity have as many as it. -/
theorem arity_of_resolve {units : List SourceUnit} {failed : List String}
    (hlink : link units failed = .ok model) {c : Call}
    (hids : ∀ o ∈ occurrences (Project.ofUnits units), o.call.id = c.id → o.call.arity = c.arity)
    (hkey : model.resolve? c = some key) (hm : model.method key = .ok m) :
    c.args.length = m.params.length := by
  obtain ⟨hissues, -, rfl⟩ := link_eq_ok_iff.mp hlink
  obtain ⟨o, ho, hid, hread⟩ := exists_of_get?_resolutions hissues hkey
  obtain ⟨_, _, _, -, -, -, rfl⟩ := lineage_of_linked hread
  exact (hids o ho hid).symm.trans (arity_of_method hm).symm

/-- **A call has its arguments where the definition it leads to has its parameters.** Both have the
page first, or neither; then come the arguments and the parameters of the source, of which there are
equally many. -/
theorem arguments_match_parameters {units : List SourceUnit} {failed : List String} {c : Call}
    (hlink : link units failed = .ok env.model)
    (hids : ∀ o ∈ occurrences (Project.ofUnits units), o.call.id = c.id → o.call.arity = c.arity)
    {text : String} (hrun : (value field (.call c)).run env s = (.ok text, s')) :
    ∃ key u m owner pageParam args s₁ s₂, env.model.resolve? c = some key ∧
      env.model.unit key.unitName = .ok u ∧ env.model.method key = .ok m ∧
      (valueList field c.args).run env s₁ = (.ok args, s₂) ∧
        List.Forall₂ (ArgWritten env field) c.args args ∧
      text = fill env.profile.phrases.await
        [("expression", owner ++ env.profile.naming.ident m.name ++
        "(" ++ join ", " ((if pageParam then [s₂.frame.page] else []) ++ args) ++ ")")] ∧
      ∀ {env' : Env} {t t' : State}, env'.profile = env.profile → env'.unit = u →
        Emits env' m t t' →
        ∃ f params, DefinitionAdded env' (methodTemplate env.profile u m)
          (u.kind = .pageObject && !m.static) pageParam f m params t t' ∧
          args.length = params.length := by
  obtain ⟨id, targetType, method, arguments, style, receiver, sourceText⟩ := c
  rw [value] at hrun
  obtain ⟨⟨u, m⟩, s₁, htarget, hrun⟩ := exists_of_run_bind hrun
  obtain ⟨args, s₂, hargs, hrun⟩ := exists_of_run_bind hrun
  obtain ⟨-, key, hkey, hunit, hmethod⟩ := exists_of_run_callTarget htarget
  obtain ⟨owner, rfl⟩ := exists_of_run_callText hrun
  have hwritten := valueList_written hargs
  refine ⟨key, u, m, owner, u.kind ≠ .pageObject ∧ implicitPage m, args, s₁, s₂, hkey, hunit,
    hmethod, hargs, hwritten, by simp only [leading, decide_eq_true_eq], ?_⟩
  rintro env' t t' hprofile rfl hemits
  obtain ⟨f, params, hadded⟩ := hemits.exists_definition
  refine ⟨f, params, hprofile ▸ hadded, ?_⟩
  rw [← hwritten.length_eq, ← hadded.1.length_eq]
  exact arity_of_resolve hlink hids hkey hmethod

theorem arguments_match_parameters_visit :
    let env : Env := { visitEnv playwrightTs "y" (.variable "x") with strategy := .call }
    let start := visitState "y" (.variable "x")
    let call : Value := .call (.mk "c1" "VisitTest" "visit" [.variable "x"] .self "" "visit(x)")
    ∃ s' m pageParam f params t',
      (value (fun _ => return "") call).run env start = (.ok "await visit(page, x)", s') ∧
      Emits env m start t' ∧ DefinitionAdded env env.profile.files.functionOpen false pageParam f m
        params start t' ∧ params.length = 1 := by
  intro env start call
  have hlink : link [visitUnit "y" (.variable "x")] [] = .ok env.model :=
    link_eq_ok_iff.mpr ⟨by decide +kernel, by decide +kernel, rfl⟩
  have hrun : (value (fun _ => return "") call).run env start = (.ok "await visit(page, x)", _) :=
    run_eq_of_toOption (by decide +kernel)
  obtain ⟨key, u, m, _, pageParam, args, _, _, hkey, hunit, hmethod, -, hargs, -, hdefined⟩ :=
    arguments_match_parameters hlink (by decide +kernel) hrun
  cases hkey
  cases hunit
  cases hmethod
  have hemits : Emits env (env.unit.methods.head (by decide)) start _ :=
    .inl ⟨by decide, run_eq_of_toOption (by decide +kernel)⟩
  obtain ⟨f, params, hadded, hlength⟩ := hdefined rfl rfl hemits
  exact ⟨_, _, pageParam, f, params, _, hrun, hemits, hadded,
    hlength.symm.trans hargs.length_eq.symm⟩

/-- Two calls with one identity lead to where the last one leads. -/
def sharedUnit : SourceUnit :=
  let first := visitUnit "y" (.variable "x")
  { first with methods := first.methods ++ [pageMethod "home" [] [], pageMethod "again" []
    [.delegate {
      call := .mk "c1" "VisitTest" "home" [] .self "" "", provenance := first.provenance }]] }

/-- A call is written with the function that another of its identity leads to. -/
theorem arguments_unmatched_of_shared_id :
    let env : Env := ⟨linkedModel [sharedUnit] [], playwrightTs, .call, sharedUnit⟩
    let start := visitState "y" (.variable "x")
    let call : Value := .call (.mk "c1" "VisitTest" "visit" [.variable "x"] .self "" "visit(x)")
    link [sharedUnit] [] = .ok env.model ∧
      ((value (fun _ => return "") call).run env start).1.toOption = some "await home(page, x)" ∧
      ∃ m s', env.model.method ⟨"Visit.java", "home", 0⟩ = .ok m ∧ Emits env m start s' ∧
        s'.code.lines.head? = some "export async function home(page: Page): Promise<void> \x7b" :=
  ⟨link_eq_ok_iff.mpr ⟨by decide +kernel, by decide +kernel, rfl⟩, by decide +kernel, _, _, rfl,
    .inl ⟨by decide, run_eq_of_toOption (by decide +kernel)⟩, by decide +kernel⟩

end TestMigration.Rendering
