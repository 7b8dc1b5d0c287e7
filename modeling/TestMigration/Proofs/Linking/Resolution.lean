import TestMigration.Proofs.Linking.Marks
import TestMigration.Proofs.Linking.Superclasses
/-!
# Calls of a linked model

When linking succeeds, every call that the model still has leads to exactly one method: the one that
its target declares, or else the nearest superclass of the target in the chain of the model
(`LeadsTo`). Every other call of the input left the project, or stood among the arguments of one
that did; it is there as its text, and each call that left has its warning.

Two things are needed for that. The table of methods and the set of demoted calls know a call by its
identity alone, so equal identities have to mean equal calls that lead to the same unit
(`IdsAgree`). And the chain of superclasses ends at a unit without a name while resolution goes on
through it, so every unit needs a name.
-/

namespace TestMigration.Linking

open TestMigration.Action Text

/-! ### The bodies of a unit -/

def unitBodies (u : SourceUnit) : List (List Action) :=
  u.methods.map Method.actions ++ u.tests.map TestCase.actions

variable {p : Project} {u : SourceUnit} {c : Call} {o : Occurrence}

theorem unitBodies_demoteUnit (demoted : String → Bool) (u : SourceUnit) :
    unitBodies (demoteUnit demoted u) = (unitBodies u).map (demoteActions demoted) := by
  simp [unitBodies, demoteUnit, demoteMethod, Function.comp_def]

theorem map_fst_unitCalls (u : SourceUnit) :
    (unitCalls u).map Prod.fst = (unitBodies u).flatMap calls := by
  simp only [unitCalls, List.map_flatMap, List.map_map, Function.comp_def, List.map_id']
  rfl

theorem exists_occurrence {body : List Action}
    (hu : u ∈ p.units) (hbody : body ∈ unitBodies u) (hc : c ∈ calls body) :
    ∃ line, (⟨u, c, line⟩ : Occurrence) ∈ occurrences p := by
  have hmem : c ∈ (unitCalls u).map Prod.fst := by
    rw [map_fst_unitCalls]
    exact List.mem_flatMap.mpr ⟨body, hbody, hc⟩
  obtain ⟨⟨c, line⟩, hentry, rfl⟩ := List.mem_map.mp hmem
  exact ⟨line, List.mem_flatMap.mpr ⟨u, hu, List.mem_map.mpr ⟨_, hentry, rfl⟩⟩⟩

theorem unit_mem_of_mem_occurrences (h : o ∈ occurrences p) : o.unit ∈ p.units := by
  obtain ⟨u, hu, hmem⟩ := List.mem_flatMap.mp h
  obtain ⟨_, -, rfl⟩ := List.mem_map.mp hmem
  exact hu

theorem length_demoteValues (demoted : String → Bool) (vs : List Value) :
    (demoteValues demoted vs).length = vs.length := by
  induction vs with
  | nil => rfl
  | cons v _ ih => rw [demoteValues, List.length_cons, ih, List.length_cons]

@[simp] theorem id_demoteCall (demoted : String → Bool) (c : Call) :
    (demoteCall demoted c).id = c.id := id_withArgs c _

@[simp] theorem method_demoteCall (demoted : String → Bool) (c : Call) :
    (demoteCall demoted c).method = c.method := method_withArgs c _

@[simp] theorem targetType_demoteCall (demoted : String → Bool) (c : Call) :
    (demoteCall demoted c).targetType = c.targetType := targetType_withArgs c _

@[simp] theorem arity_demoteCall (demoted : String → Bool) (c : Call) :
    (demoteCall demoted c).arity = c.arity := by
  cases c
  exact length_demoteValues demoted _

/-! ### Calls and what they lead to -/

/-- Equal identities mean equal calls that lead to the same unit. -/
def IdsAgree (p : Project) : Prop :=
  ∀ o ∈ occurrences p, ∀ o' ∈ occurrences p, o.call.id = o'.call.id → o.call = o'.call ∧
      p.resolveType o.call.targetType o.unit = p.resolveType o'.call.targetType o'.unit

/-- A call of a unit leads to the method of a key: so says the model, the method is there, and its
unit is the first one among the target of the call and its superclasses that declares such a method,
which it does once. -/
structure LeadsTo (p : Project) (m : Model) (u : SourceUnit) (c : Call) (key : MethodKey) :
    Prop where
  resolve : m.resolve? c = some key
  method : key.method = c.method
  arity : key.arity = c.arity
  exists_method : ∃ target, m.method key = .ok target
  nearest : ∃ target first chain owner, p.resolveType c.targetType u = .found target ∧
    m.unit target.unitName = .ok first ∧ m.superclassChain target.unitName = .ok chain ∧
    (first :: chain).find? (declares c) = some owner ∧ owner.unitName = key.unitName ∧
    (owner.findMethods c.method (some c.arity)).length = 1

/-- What linking makes of the calls of a project, given the demoted ones. -/
structure CallsSettled (p : Project) (m : Model) (demoted : String → Bool) : Prop where
  /-- The units are those of the project, with demoted calls kept as text. -/
  units : m.units = p.units.map (demoteUnit demoted)
  /-- Each call that is still in the model leads to a method. -/
  leadsTo : ∀ u ∈ p.units, ∀ body ∈ unitBodies (demoteUnit demoted u), ∀ c ∈ calls body,
    ∃ key, LeadsTo p m u c key
  /-- The marks are those of the project, without those inside of demoted calls, which are there as
  texts. -/
  marks : ∀ u ∈ p.units, (unitBodies (demoteUnit demoted u)).map bodyMarks =
    (unitBodies u).map fun body => (bodyMarks body).filterMap (demotePlaced demoted)
  /-- Demoted are the calls whose target is nowhere in the project. -/
  demoted_iff : ∀ o ∈ occurrences p, demoted o.call.id = true ↔
    p.resolveType o.call.targetType o.unit = .missing
  /-- There is one warning for each place where a demoted call stood. -/
  warnings : m.diagnostics =
    ((occurrences p).filter fun o => demoted o.call.id).map Occurrence.warning

theorem Project.Lineage.unique {owner owner' : SourceUnit}
    {above above' : List SourceUnit} (h : p.Lineage c u above owner)
    (h' : p.Lineage c u above' owner') : owner = owner' := by
  induction h generalizing above' with
  | here hm =>
    cases h' with
    | here => rfl
    | up hnone => rw [hm] at hnone; cases hnone
  | up hnone hsuper _ ih =>
    cases h' with
    | here hm => rw [hm] at hnone; cases hnone
    | up _ hsuper' hrest =>
      rw [hsuper] at hsuper'
      cases hsuper'
      exact ih hrest

/-- A linked call has a target in the project, with a way up to its method. -/
theorem lineage_of_linked {failed : Table String String}
    {key : MethodKey} (h : o.read p failed = .linked key) :
    ∃ target above owner, p.resolveType o.call.targetType o.unit = .found target ∧
      p.Lineage o.call target above owner ∧ ((target :: above).map SourceUnit.unitName).Nodup ∧
      key = ⟨owner.unitName, o.call.method, o.call.arity⟩ := by
  rw [Occurrence.read, readCall] at h
  cases htype : p.resolveType o.call.targetType o.unit with
  | ambiguous => simp [htype] at h
  | missing =>
    rw [htype] at h
    cases hfailed : Table.get? (afterLast '.' o.call.targetType) failed <;> simp [hfailed] at h
  | found target =>
    rcases hmethod : p.resolveMethod target o.call o.unit o.line with ⟨found, _⟩
    cases found with
    | none => simp [htype, hmethod] at h
    | some k =>
      simp only [htype, hmethod, CallReading.linked.injEq] at h
      subst h
      obtain ⟨above, owner, hway, hnodup, -, hkey⟩ := Project.lineage_of_methodFrom hmethod
      exact ⟨target, above, owner, rfl, hway, hnodup, hkey⟩

/-- A call without issues leaves the project exactly if its target is nowhere in it. -/
theorem isDemoted_iff {failed : Table String String}
    (hfaultless : ∀ issues, o.read p failed ≠ .faulty issues) :
    o.isDemoted p failed = true ↔ p.resolveType o.call.targetType o.unit = .missing := by
  rw [Occurrence.isDemoted]
  rw [Occurrence.read, readCall] at hfaultless ⊢
  cases htype : p.resolveType o.call.targetType o.unit with
  | ambiguous => simp
  | missing =>
    rw [htype] at hfaultless
    cases hfailed : Table.get? (afterLast '.' o.call.targetType) failed with
    | none => simp
    | some => simp [hfailed] at hfaultless
  | found target =>
    rcases hmethod : p.resolveMethod target o.call o.unit o.line with ⟨_ | k, issues⟩ <;>
      simp [hmethod]

section Links

variable {units : List SourceUnit} {failed : List String}
variable {o : Occurrence} {key : MethodKey}

theorem resolves_linksOf (h : (linksOf units failed).issues = []) :
    Resolves (Project.ofUnits units) (failedNames failed) (occurrences (Project.ofUnits units))
      { issues := (Project.ofUnits units).superclasses.2 } (linksOf units failed) := by
  rw [linksOf, resolveCalls_eq] at h ⊢
  exact resolves_of_no_issue _ _ h

/-- The identity of a call is demoted exactly if the project does not have its target. -/
theorem contains_demoted_iff (h : (linksOf units failed).issues = [])
    (hids : IdsAgree (Project.ofUnits units)) (ho : o ∈ occurrences (Project.ofUnits units)) :
    (linksOf units failed).demoted.contains o.call.id = true ↔
      (Project.ofUnits units).resolveType o.call.targetType o.unit = .missing := by
  have hresolves := resolves_linksOf h
  rw [hresolves.demoted, List.contains_iff_mem]
  constructor
  · intro hmem
    obtain ⟨o', ho', hid⟩ := List.mem_map.mp hmem
    obtain ⟨ho', hdemoted⟩ := List.mem_filter.mp ho'
    rw [(hids o ho o' ho' hid.symm).2]
    exact (isDemoted_iff (hresolves.faultless o' ho')).mp hdemoted
  · intro hmissing
    refine List.mem_map.mpr ⟨o, List.mem_filter.mpr ⟨ho, ?_⟩, rfl⟩
    exact (isDemoted_iff (hresolves.faultless o ho)).mpr hmissing

theorem get?_resolutions (h : (linksOf units failed).issues = [])
    (hids : IdsAgree (Project.ofUnits units)) (ho : o ∈ occurrences (Project.ofUnits units))
    (hread : o.read (Project.ofUnits units) (failedNames failed) = .linked key) :
    Table.get? o.call.id (linksOf units failed).resolutions = some key := by
  rw [(resolves_linksOf h).resolutions]
  refine Table.get?_ofPairs_of_agree
    (List.mem_filterMap.mpr ⟨o, ho, Occurrence.row?_eq_some_iff.mpr ⟨rfl, hread⟩⟩)
      fun key' hkey' => ?_
  -- Another entry of the same identity comes from an equal call with the same target.
  obtain ⟨o', ho', hentry⟩ := List.mem_filterMap.mp hkey'
  obtain ⟨hid, hread'⟩ := Occurrence.row?_eq_some_iff.mp hentry
  obtain ⟨hcall, htype⟩ := hids o ho o' ho' hid.symm
  obtain ⟨_, _, _, hfound, hway, -, rfl⟩ := lineage_of_linked hread
  obtain ⟨_, _, _, hfound', hway', -, rfl⟩ := lineage_of_linked hread'
  rw [← htype, hfound] at hfound'
  cases hfound'
  rw [← hcall] at hway' ⊢
  rw [hway.unique hway']

theorem exists_of_get?_resolutions (h : (linksOf units failed).issues = []) {id : String}
    (hkey : Table.get? id (linksOf units failed).resolutions = some key) :
    ∃ o ∈ occurrences (Project.ofUnits units), o.call.id = id ∧
      o.read (Project.ofUnits units) (failedNames failed) = .linked key := by
  rw [(resolves_linksOf h).resolutions] at hkey
  obtain ⟨o, ho, hentry⟩ := List.mem_filterMap.mp (Table.mem_of_get?_ofPairs hkey)
  exact ⟨o, ho, Occurrence.row?_eq_some_iff.mp hentry⟩

theorem linkedFrom_linkedModel (units : List SourceUnit) (failed : List String) :
    LinkedFrom (Project.ofUnits units) (linksOf units failed).demoted.contains
      (linkedModel units failed) := ⟨rfl, rfl⟩

theorem nodup_ofUnits (h : (units.map SourceUnit.unitName).Nodup) :
    ((Project.ofUnits units).units.map SourceUnit.unitName).Nodup :=
  ((sortBy_perm _ units).map _).nodup_iff.mpr h

/-- A linked call leads to its method, also with demoted calls among its arguments. -/
theorem leadsTo_of_linked (h : (linksOf units failed).issues = [])
    (hnames : (units.map SourceUnit.unitName).Nodup) (hnamed : ∀ u ∈ units, u.unitName ≠ "")
    (hids : IdsAgree (Project.ofUnits units)) (ho : o ∈ occurrences (Project.ofUnits units))
    (hread : o.read (Project.ofUnits units) (failedNames failed) = .linked key)
    (demoted : String → Bool) :
    LeadsTo (Project.ofUnits units) (linkedModel units failed) o.unit (demoteCall demoted o.call)
      key := by
  have hresolution := get?_resolutions h hids ho hread
  obtain ⟨target, _, owner, hfound, hway, hnodup, rfl⟩ := lineage_of_linked hread
  have hmodel := linkedFrom_linkedModel units failed
  have hunique := nodup_ofUnits hnames
  have htarget := Project.mem_of_resolveType (unit_mem_of_mem_occurrences ho) hfound
  have howner := hway.mem htarget owner hway.owner_mem
  obtain ⟨_, hfind⟩ := hway.findMethods_owner
  obtain ⟨chain, hchain, hfirst⟩ := hmodel.superclassChain_of_lineage hunique
    (fun w hw => hnamed w (mem_sortBy.mp hw)) htarget hway hnodup
  have hdeclares : declares (demoteCall demoted o.call) = declares o.call := by
    funext w
    simp [declares]
  refine ⟨by rw [Model.resolve?, id_demoteCall]; exact hresolution, by simp, by simp, ?_, ?_⟩
  · exact ⟨_, hmodel.method_eq hunique howner hfind⟩
  · refine ⟨target, _, chain, demoteUnit _ owner, by rw [targetType_demoteCall]; exact hfound,
      hmodel.unit_eq hunique htarget, hchain, by rw [hdeclares]; exact hfirst, rfl, ?_⟩
    simp [findMethods_demoteUnit, hfind]

/-- **Every call of a linked model leads to exactly one method; all others are demoted.** -/
theorem linked_calls_lead_to_methods {m : Model} (hlink : link units failed = .ok m)
    (hnames : (units.map SourceUnit.unitName).Nodup) (hnamed : ∀ u ∈ units, u.unitName ≠ "")
    (hids : IdsAgree (Project.ofUnits units)) :
    ∃ demoted, CallsSettled (Project.ofUnits units) m demoted := by
  obtain ⟨hissues, -, rfl⟩ := link_eq_ok_iff.mp hlink
  have hresolves := resolves_linksOf hissues
  refine ⟨(linksOf units failed).demoted.contains, rfl, ?_, ?_, ?_, ?_⟩
  · intro u hu body hbody _ hc'
    rw [unitBodies_demoteUnit, List.mem_map] at hbody
    obtain ⟨body, hbody, rfl⟩ := hbody
    obtain ⟨c, hc, hkept, rfl⟩ := exists_of_mem_calls_demoteActions hc'
    obtain ⟨line, ho⟩ := exists_occurrence hu hbody hc
    -- A call that is kept was neither faulty nor demoted, so it is linked.
    cases hread : Occurrence.read (Project.ofUnits units) (failedNames failed) ⟨u, c, line⟩ with
    | linked key => exact ⟨key, leadsTo_of_linked hissues hnames hnamed hids ho hread _⟩
    | faulty issues => exact absurd hread (hresolves.faultless _ ho issues)
    | demoted =>
      have hdemoted : Occurrence.isDemoted (Project.ofUnits units) (failedNames failed)
          ⟨u, c, line⟩ = true := by rw [Occurrence.isDemoted, hread]
      have hmissing := (isDemoted_iff (hresolves.faultless _ ho)).mp hdemoted
      rw [(contains_demoted_iff hissues hids ho).mpr hmissing] at hkept
      cases hkept
  · intro u hu
    rw [unitBodies_demoteUnit, List.map_map]
    exact List.map_congr_left fun body _ => bodyMarks_demoteActions body
  · intro o ho
    exact contains_demoted_iff hissues hids ho
  · change (linksOf units failed).diagnostics = _
    rw [hresolves.diagnostics, List.nil_append]
    refine congrArg (List.map Occurrence.warning) (List.filter_congr fun o ho => ?_)
    rw [Bool.eq_iff_iff, isDemoted_iff (hresolves.faultless o ho)]
    exact (contains_demoted_iff hissues hids ho).symm

end Links

/-! ### Projects of a few units -/

def pageMethod (name : String) (params : List Param) (actions : List Action) : Method :=
  { name, params, returnType := "void", role := .pageMethod, actions, provenance := ⟨"", 1, 1⟩ }

def page (unitName package simpleName superclass : String) (methods : List Method) : SourceUnit :=
  { unitName, qualifiedName := package ++ "." ++ simpleName, simpleName, package
    kind := .pageObject, imports := [], provenance := ⟨unitName, 1, 9⟩, superclass, methods }

def openCall (args : List Value) : Call :=
  .mk "c1" "Home" "open" args .onVariable "home" "home.open"

def titleCall : Call := .mk "c2" "Texts" "title" [] .static "" "Texts.title()"

def flow (unitName package : String) (args : List Value) : SourceUnit :=
  page unitName package "Flow" "" [pageMethod "start" []
    [.delegate { call := openCall args, provenance := ⟨unitName, 4, 4⟩ }]]

def inheritedOpen : List SourceUnit :=
  [page "p/Home.java" "p" "Home" "Base" [], flow "p/Flow.java" "p" [.call titleCall],
    page "p/Base.java" "p" "Base" "" [pageMethod "open" [⟨"title", "String"⟩] []]]

theorem linked_calls_lead_to_methods_inheritedOpen :
    link inheritedOpen [] = .ok (linkedModel inheritedOpen []) ∧
      (inheritedOpen.map SourceUnit.unitName).Nodup ∧ (∀ u ∈ inheritedOpen, u.unitName ≠ "") ∧
      IdsAgree (Project.ofUnits inheritedOpen) ∧
      ∃ demoted, CallsSettled (Project.ofUnits inheritedOpen) (linkedModel inheritedOpen [])
        demoted := by
  have hlink : link inheritedOpen [] = .ok (linkedModel inheritedOpen []) :=
    link_eq_ok_iff.mpr ⟨rfl, rfl, rfl⟩
  have hnames : (inheritedOpen.map SourceUnit.unitName).Nodup := by decide
  have hnamed : ∀ u ∈ inheritedOpen, u.unitName ≠ "" := by decide
  have hids : IdsAgree (Project.ofUnits inheritedOpen) := by
    have hcalls : occurrences (Project.ofUnits inheritedOpen) =
        [⟨flow "p/Flow.java" "p" [.call titleCall], openCall [.call titleCall], 4⟩,
          ⟨flow "p/Flow.java" "p" [.call titleCall], titleCall, 4⟩] := rfl
    rw [IdsAgree, hcalls]
    simp [openCall, titleCall, Call.id]
  exact ⟨hlink, hnames, hnamed, hids, linked_calls_lead_to_methods hlink hnames hnamed hids⟩

/-- A page whose superclass has no name. -/
def unnamedBase : List SourceUnit :=
  [page "p/Home.java" "p" "Home" "Base" [], flow "p/Flow.java" "p" [],
    page "" "p" "Base" "" [pageMethod "open" [] []]]

/-- Two packages with pages of the same names, and one call in both. -/
def twoPackages : List SourceUnit :=
  [page "a/Home.java" "a" "Home" "" [pageMethod "open" [] []], flow "a/Flow.java" "a" [],
    page "b/Home.java" "b" "Home" "" [pageMethod "open" [] []], flow "b/Flow.java" "b" []]

/-- A call without arguments that has a target stays in the model, and leads to a method. -/
theorem CallsSettled.leadsTo_openCall {m : Model} {demoted : String → Bool}
    (h : CallsSettled p m demoted) {unitName package : String} {target : SourceUnit}
    (hu : flow unitName package [] ∈ p.units)
    (hfound : p.resolveType "Home" (flow unitName package []) = .found target) :
    ∃ key, LeadsTo p m (flow unitName package []) (openCall []) key := by
  have hbody : [.delegate { call := openCall [], provenance := ⟨unitName, 4, 4⟩ }] ∈
      unitBodies (flow unitName package []) := List.mem_singleton.mpr rfl
  obtain ⟨_, ho⟩ := exists_occurrence (c := openCall []) hu hbody (List.mem_singleton.mpr rfl)
  have hkept : ¬demoted (openCall []).id = true := by
    intro hdemoted
    have hmissing := (h.demoted_iff _ ho).mp hdemoted
    rw [show (openCall []).targetType = "Home" from rfl, hfound] at hmissing
    cases hmissing
  refine h.leadsTo _ hu [.delegate { call := openCall [], provenance := ⟨unitName, 4, 4⟩ }] ?_ _
    (List.mem_singleton.mpr rfl)
  rw [unitBodies_demoteUnit]
  refine List.mem_map.mpr ⟨_, hbody, ?_⟩
  rw [demoteActions, demoteAction, if_neg hkept]
  rfl

/-- The chain of superclasses ends at a unit without a name, though a method may be found there; and
of two calls with one identity only the last is in the table. -/
theorem not_callsSettled_of_unnamed_or_shared :
    (link unnamedBase [] = .ok (linkedModel unnamedBase []) ∧
      (unnamedBase.map SourceUnit.unitName).Nodup ∧ IdsAgree (Project.ofUnits unnamedBase) ∧
      ¬∃ demoted, CallsSettled (Project.ofUnits unnamedBase) (linkedModel unnamedBase []) demoted) ∧
    (link twoPackages [] = .ok (linkedModel twoPackages []) ∧
      (twoPackages.map SourceUnit.unitName).Nodup ∧ (∀ u ∈ twoPackages, u.unitName ≠ "") ∧
      (∀ o ∈ occurrences (Project.ofUnits twoPackages),
        ∀ o' ∈ occurrences (Project.ofUnits twoPackages), o.call.id = o'.call.id →
          o.call = o'.call) ∧
      ¬∃ demoted, CallsSettled (Project.ofUnits twoPackages) (linkedModel twoPackages [])
        demoted) := by
  refine ⟨⟨link_eq_ok_iff.mpr ⟨rfl, rfl, rfl⟩, by decide, ?_, ?_⟩,
    ⟨link_eq_ok_iff.mpr ⟨rfl, rfl, rfl⟩, by decide, by decide, ?_, ?_⟩⟩
  · have hcalls : occurrences (Project.ofUnits unnamedBase) =
        [⟨flow "p/Flow.java" "p" [], openCall [], 4⟩] := rfl
    rw [IdsAgree, hcalls]
    simp
  · rintro ⟨demoted, h⟩
    have hflow : flow "p/Flow.java" "p" [] ∈ (Project.ofUnits unnamedBase).units :=
      mem_sortBy.mpr (by simp [unnamedBase])
    have hhome : (Project.ofUnits unnamedBase).resolveType "Home" (flow "p/Flow.java" "p" []) =
        .found (page "p/Home.java" "p" "Home" "Base" []) := rfl
    obtain ⟨key, hleads⟩ := h.leadsTo_openCall hflow hhome
    obtain ⟨target, first, chain, owner, htarget, hfirst, hchain, hfind, -, -⟩ := hleads.nearest
    cases htarget
    cases hfirst
    cases hchain
    cases hfind
  · have hcalls : occurrences (Project.ofUnits twoPackages) =
        [⟨flow "a/Flow.java" "a" [], openCall [], 4⟩,
          ⟨flow "b/Flow.java" "b" [], openCall [], 4⟩] :=
      rfl
    rw [hcalls]
    simp
  · rintro ⟨demoted, h⟩
    have hflow : flow "a/Flow.java" "a" [] ∈ (Project.ofUnits twoPackages).units :=
      mem_sortBy.mpr (by simp [twoPackages])
    have hhome : (Project.ofUnits twoPackages).resolveType "Home" (flow "a/Flow.java" "a" []) =
        .found (page "a/Home.java" "a" "Home" "" [pageMethod "open" [] []]) := rfl
    obtain ⟨key, hleads⟩ := h.leadsTo_openCall hflow hhome
    obtain ⟨target, first, chain, owner, htarget, hfirst, hchain, hfind, howner, -⟩ :=
      hleads.nearest
    cases htarget
    cases hfirst
    cases hchain
    cases hfind
    cases hleads.resolve
    exact absurd howner (by decide)

end TestMigration.Linking
