import Mathlib.Data.List.Induction
import TestMigration.Profile.Builtin
import TestMigration.Proofs.Linking.Calls
import TestMigration.Proofs.Rendering.Dependents
import TestMigration.Proofs.Rendering.Sessions
/-!
# What becomes of the units of a run

Each unit is rendered on its own, and what comes of it is a file or a refusal, with the session that
the rendering leaves (`Outcome`). If the units have different names, what a run has before refusals
spread can be read off the outcomes one by one (`exists_outcomes`).

A session imports units of the model only, and each of those has an outcome. So no file that is kept
imports one that is missing (`importsMet_of_converted`). This rests on the names being different: of
two units with one name, the imports of the second take the place of those of the first
(`imports_missing_of_shared_name`).
-/

namespace TestMigration.Rendering

open TestMigration.Action Text Profile

variable {out : OutputUnit} {name : String}

/-! ### One unit -/

section Unit

variable {env : Env} {s : Session}

theorem brings_fileText (env : Env) {I : Session → Prop} [Stable env I] (path : String) :
    Brings env I I (fileText path) := by
  have hsections : Is env (Upholding env I) unitSections := inferInstance
  refine .ask (hsections.out.after (fun _ h => h) fun {r _ _} _ => .observe fun t => ?_)
  have himports : Is env (Upholding env I) (liftHalt (importLines env path t.session)) :=
    inferInstance
  exact himports.out.after (fun _ h => h) fun _ => .of_same fun _ => ⟨_, _, rfl, rfl⟩

theorem source_of_renderUnit (h : renderUnit env = .ok (.ok out, s)) :
    out.source = env.unit.unitName := by
  obtain ⟨_, -, ⟨r, hending, -⟩ | ⟨_, -, ⟨r, hending, -⟩ | ⟨_, -, hending⟩⟩⟩ :=
    renderUnit_cases h
  · cases hending
  · cases hending
  · rw [Except.ok.inj hending]

/-- Nothing but a unit's name matters for what a session is about. -/
instance : Stable env fun _ => True where
  trace _ _ := trivial
  wait _ := trivial
  waited _ _ _ _ := trivial
  remark _ _ _ := trivial
  ofClass _ _ := trivial
  ofModule _ _ := trivial
  ofFunctions _ _ _ := trivial

/-- **A refused unit is refused in its own name.** -/
theorem unitName_of_renderUnit {r : Refusal} (h : renderUnit env = .ok (.error r, s)) :
    r.unitName = env.unit.unitName := by
  obtain ⟨path, -, ⟨r', hending, hrendered⟩ | ⟨text, -, ⟨r', hending, hgates⟩ | ⟨_, -, hending⟩⟩⟩ :=
    renderUnit_cases h
  · cases hending
    obtain ⟨_, -, ⟨text, hending, -⟩ | ⟨r', hending, hrun⟩⟩ := renderTo_cases hrendered
    · cases hending
    · cases hending
      exact (brings_fileText env (I := fun _ => True) path).own env.start (congrArg Prod.fst hrun)
  · cases hending
    unfold runGates at hgates
    dsimp only at hgates
    split at hgates
    · cases hgates
      rfl
    · cases hgates
  · cases hending

def ImportsKnown (m : Model) (s : Session) : Prop :=
  ∀ name ∈ s.imported, ∃ v ∈ m.units, v.unitName = name

theorem mem_imported : name ∈ s.imported ↔ name ∈ s.classImports.keys ∨
    name ∈ s.moduleImports.keys ∨ name ∈ s.functionImports.keys := by
  unfold Session.imported Session.imported.distinctNames
  simp [mem_foldl_insertNew, or_assoc]

instance : Stable env (ImportsKnown env.model) where
  trace _ hs := hs
  wait hs := hs
  waited _ _ _ hs := hs
  remark _ _ hs := hs
  ofClass {s u} hu hs name hname := by
    rw [mem_imported, Table.keys_put, mem_insertNew] at hname
    rcases hname with (hold | rfl) | hothers
    · exact hs name (mem_imported.mpr (.inl hold))
    · exact ⟨u, hu, rfl⟩
    · exact hs name (mem_imported.mpr (.inr hothers))
  ofModule {s u} hu hs name hname := by
    rw [mem_imported, Table.keys_put, mem_insertNew] at hname
    rcases hname with hclass | (hold | rfl) | hfunction
    · exact hs name (mem_imported.mpr (.inl hclass))
    · exact hs name (mem_imported.mpr (.inr (.inl hold)))
    · exact ⟨u, hu, rfl⟩
    · exact hs name (mem_imported.mpr (.inr (.inr hfunction)))
  ofFunctions {s u} hu names hs name hname := by
    rw [mem_imported, Table.keys_put, mem_insertNew] at hname
    rcases hname with hclass | hmodule | (hold | rfl)
    · exact hs name (mem_imported.mpr (.inl hclass))
    · exact hs name (mem_imported.mpr (.inr (.inl hmodule)))
    · exact hs name (mem_imported.mpr (.inr (.inr hold)))
    · exact ⟨u, hu, rfl⟩

theorem importsKnown_of_renderUnit {ending : Except Refusal OutputUnit}
    (h : renderUnit env = .ok (ending, s)) : ImportsKnown env.model s := by
  have hrendered : ∀ {path ending}, renderTo env path = .ok (ending, s) →
      ImportsKnown env.model s := by
    intro path ending hrendered
    obtain ⟨_, rfl, hrun⟩ := renderTo_cases hrendered
    have hstart : ImportsKnown env.model env.start.session := fun name hname => by cases hname
    have hfinal := (brings_fileText env path).out env.start hstart
    rcases hrun with ⟨text, -, hrun⟩ | ⟨r, -, hrun⟩
    · rwa [hrun] at hfinal
    · rwa [hrun] at hfinal
  obtain ⟨path, -, ⟨r, -, hrefused⟩ | ⟨text, hwritten, -⟩⟩ := renderUnit_cases h
  · exact hrendered hrefused
  · exact hrendered hwritten

end Unit

/-! ### All units -/

/-- The setting in which a unit of a run is rendered. -/
def unitEnv (m : Model) (p : Profile) (strategy : DelegateStrategy) (u : SourceUnit) : Env :=
  { model := m, profile := p, strategy, unit := u }

structure Outcome where
  unit : SourceUnit
  ending : Except Refusal OutputUnit
  session : Session

namespace Outcome

def written? (o : Outcome) : Option OutputUnit := o.ending.toOption

def refused? (o : Outcome) : Option (String × Refusal) :=
  match o.ending with
  | .ok _ => none
  | .error r => some (o.unit.unitName, r)

def imports? (o : Outcome) : Option (String × List String) :=
  match o.ending with
  | .ok _ => some (o.unit.unitName, o.session.imported.filter (· != o.unit.unitName))
  | .error _ => none

def diagnostics (o : Outcome) : List Diagnostic :=
  match o.ending with
  | .ok _ => o.session.diagnostics
  | .error r => r.diagnostic :: o.session.diagnostics

end Outcome

def resultOf (os : List Outcome) : Result where
  units := os.filterMap Outcome.written?
  refused := os.filterMap Outcome.refused?
  diagnostics := os.flatMap Outcome.diagnostics

def importsOf (os : List Outcome) : Imports := os.filterMap Outcome.imports?

structure Outcomes (m : Model) (p : Profile) (strategy : DelegateStrategy) (us : List SourceUnit)
    (os : List Outcome) : Prop where
  units : os.map Outcome.unit = us
  rendered : ∀ o ∈ os, renderUnit (unitEnv m p strategy o.unit) = .ok (o.ending, o.session)

section All

variable {m : Model} {p : Profile} {strategy : DelegateStrategy} {us : List SourceUnit}
variable {os : List Outcome}

theorem mem_units_resultOf : out ∈ (resultOf os).units ↔ ∃ o ∈ os, o.ending = .ok out := by
  simp only [resultOf, List.mem_filterMap, Outcome.written?]
  refine exists_congr fun o => and_congr_right fun _ => ?_
  cases o.ending <;> simp [Except.toOption]

theorem mem_keys_refused :
    name ∈ (resultOf os).refused.keys ↔
      ∃ o ∈ os, o.unit.unitName = name ∧ ∃ r, o.ending = .error r := by
  simp only [resultOf, Table.keys, List.mem_map, List.mem_filterMap, Outcome.refused?]
  constructor
  · rintro ⟨_, ⟨o, ho, hentry⟩, rfl⟩
    cases hending : o.ending with
    | ok =>
      rw [hending] at hentry
      cases hentry
    | error r =>
      rw [hending] at hentry
      cases hentry
      exact ⟨o, ho, rfl, r, hending⟩
  · rintro ⟨o, ho, rfl, r, hending⟩
    exact ⟨(o.unit.unitName, r), ⟨o, ho, by rw [hending]⟩, rfl⟩

theorem keys_refused_resultOf (os : List Outcome) :
    (resultOf os).refused.keys = (os.filter (!·.ending.toBool)).map (·.unit.unitName) := by
  induction os with
  | nil => rfl
  | cons o _ ih =>
    cases hending : o.ending with
    | ok => simpa [resultOf, Outcome.refused?, hending, Except.toBool] using ih
    | error r => simpa [resultOf, Table.keys, Outcome.refused?, hending, Except.toBool] using ih

theorem keys_importsOf_sublist (os : List Outcome) :
    (importsOf os).keys.Sublist (os.map (·.unit.unitName)) := by
  induction os with
  | nil => exact .slnil
  | cons o _ ih =>
    cases hending : o.ending with
    | ok => simpa [importsOf, Table.keys, Outcome.imports?, hending] using ih
    | error r => simpa [importsOf, Outcome.imports?, hending] using ih.cons _

theorem mem_keys_importsOf (h : name ∈ (importsOf os).keys) :
    ∃ o ∈ os, o.unit.unitName = name ∧ ∃ out, o.ending = .ok out := by
  simp only [importsOf, Table.keys, List.mem_map, List.mem_filterMap, Outcome.imports?] at h
  obtain ⟨_, ⟨o, ho, hentry⟩, rfl⟩ := h
  cases hending : o.ending with
  | ok out =>
    rw [hending] at hentry
    cases hentry
    exact ⟨o, ho, rfl, out, hending⟩
  | error r =>
    rw [hending] at hentry
    cases hentry

theorem renderNext_eq_ok {r r' : Result} {imports imports' : Imports} {u : SourceUnit}
    (h : renderNext m p strategy (r, imports) u = .ok (r', imports')) :
    ∃ ending s, renderUnit (unitEnv m p strategy u) = .ok (ending, s) ∧ ((∃ out, ending = .ok out ∧
        r' = { r with units := r.units ++ [out], diagnostics := r.diagnostics ++ s.diagnostics } ∧
        imports' = Table.put u.unitName (s.imported.filter (· != u.unitName)) imports) ∨
      ∃ refusal, ending = .error refusal ∧ r' = { r with
          refused := Table.put u.unitName refusal r.refused
          diagnostics := r.diagnostics ++ [refusal.diagnostic] ++ s.diagnostics } ∧
        imports' = imports) := by
  obtain ⟨⟨refusal | out, s⟩, hrendered, h⟩ := bind_eq_ok_iff.mp h
  · cases h
    exact ⟨_, s, hrendered, .inr ⟨refusal, rfl, rfl, rfl⟩⟩
  · cases h
    exact ⟨_, s, hrendered, .inl ⟨out, rfl, rfl, rfl⟩⟩

/-- **Before refusals spread, a run is what comes of its units.** -/
theorem exists_outcomes (hnames : (us.map SourceUnit.unitName).Nodup) {r : Result}
    {imports : Imports} (h : us.foldlM (renderNext m p strategy) ({}, []) = .ok (r, imports)) :
    ∃ os, Outcomes m p strategy us os ∧ r = resultOf os ∧ imports = importsOf os := by
  induction us using List.reverseRecOn generalizing r imports with
  | nil =>
    cases h
    exact ⟨[], ⟨rfl, by simp⟩, rfl, rfl⟩
  | append_singleton us u ih =>
    rw [List.map_append, List.nodup_append] at hnames
    obtain ⟨hbefore, -, hnew⟩ := hnames
    rw [List.foldlM_append] at h
    obtain ⟨⟨r₀, imports₀⟩, hfirst, h⟩ := bind_eq_ok_iff.mp h
    simp only [List.foldlM_cons, List.foldlM_nil, bind_pure] at h
    obtain ⟨os, hos, rfl, rfl⟩ := ih hbefore hfirst
    -- The name of the unit is new, so what is put into the tables comes last.
    have hname : ∀ o ∈ os, o.unit.unitName ≠ u.unitName := by
      intro o ho
      refine hnew _ (List.mem_map_of_mem ?_) _ (by simp)
      rw [← hos.units]
      exact List.mem_map_of_mem ho
    have hrefused : u.unitName ∉ (resultOf os).refused.keys := fun hmem => by
      obtain ⟨o, ho, heq, -⟩ := mem_keys_refused.mp hmem
      exact hname o ho heq
    have himports : u.unitName ∉ (importsOf os).keys := fun hmem => by
      obtain ⟨o, ho, heq, -⟩ := mem_keys_importsOf hmem
      exact hname o ho heq
    obtain ⟨ending, s, hrendered, hcases⟩ := renderNext_eq_ok h
    refine ⟨os ++ [⟨u, ending, s⟩], ⟨?_, fun o ho => ?_⟩, ?_⟩
    · rw [List.map_append, hos.units]
      rfl
    · rcases List.mem_append.mp ho with ho | ho
      · exact hos.rendered o ho
      · rw [List.mem_singleton.mp ho]
        exact hrendered
    · rcases hcases with ⟨_, rfl, rfl, rfl⟩ | ⟨_, rfl, rfl, rfl⟩
      · rw [Table.put_of_not_mem himports]
        simp [resultOf, importsOf, Outcome.written?, Outcome.refused?, Outcome.imports?,
          Outcome.diagnostics, Except.toOption]
      · rw [Table.put_of_not_mem hrefused]
        simp [resultOf, importsOf, Outcome.written?, Outcome.refused?, Outcome.imports?,
          Outcome.diagnostics, Except.toOption]

namespace Outcomes

variable (h : Outcomes m p strategy us os)

include h

theorem exists_of_mem {u : SourceUnit} (hu : u ∈ us) : ∃ o ∈ os, o.unit = u := by
  rw [← h.units] at hu
  exact List.mem_map.mp hu

theorem map_unitName : os.map (·.unit.unitName) = us.map SourceUnit.unitName := by
  rw [← h.units, List.map_map]
  rfl

theorem source_eq {o : Outcome} (ho : o ∈ os) (hout : o.ending = .ok out) :
    out.source = o.unit.unitName :=
  source_of_renderUnit (hout ▸ h.rendered o ho)

theorem map_source : (resultOf os).units.map OutputUnit.source =
    (os.filter (·.ending.toBool)).map (·.unit.unitName) := by
  have hsources : ∀ os' ⊆ os, (resultOf os').units.map OutputUnit.source =
      (os'.filter (·.ending.toBool)).map (·.unit.unitName) := by
    intro os' hos'
    induction os' with
    | nil => rfl
    | cons o _ ih =>
      have ih := ih fun x hx => hos' (List.mem_cons_of_mem _ hx)
      cases hending : o.ending with
      | ok =>
        have hsource := h.source_eq (hos' List.mem_cons_self) hending
        simpa [resultOf, Outcome.written?, hending, Except.toOption, Except.toBool,
          hsource] using ih
      | error r =>
        simpa [resultOf, Outcome.written?, hending, Except.toOption, Except.toBool] using ih
  exact hsources os (List.Subset.refl os)

theorem names_perm : (resultOf os).names.Perm (us.map SourceUnit.unitName) := by
  rw [Result.names, h.map_source, keys_refused_resultOf, ← List.map_append, ← h.map_unitName]
  exact (List.filter_append_perm _ os).map _

theorem settled (hnames : (us.map SourceUnit.unitName).Nodup) : (resultOf os).Settled := by
  rw [← h.map_unitName] at hnames
  refine ⟨?_, fun out hout hmem => ?_⟩
  · rw [h.map_source]
    exact hnames.sublist (List.filter_sublist.map _)
  · obtain ⟨o, ho, hending⟩ := mem_units_resultOf.mp hout
    obtain ⟨_, ho', hname, r, hrefused⟩ := mem_keys_refused.mp hmem
    rw [h.source_eq ho hending] at hname
    rw [List.inj_on_of_nodup_map hnames ho' ho hname, hending] at hrefused
    cases hrefused

theorem mem_sources_of_mem_keys (name : String) (hname : name ∈ (importsOf os).keys) :
    name ∈ (resultOf os).units.map OutputUnit.source := by
  obtain ⟨o, ho, rfl, out, hending⟩ := mem_keys_importsOf hname
  exact List.mem_map.mpr ⟨out, mem_units_resultOf.mpr ⟨o, ho, hending⟩, h.source_eq ho hending⟩

theorem leads (hnames : (us.map SourceUnit.unitName).Nodup) {o : Outcome} (ho : o ∈ os)
    (hout : o.ending = .ok out) (hname : name ∈ o.session.imported)
    (hother : name ≠ o.unit.unitName) : (importsOf os).Leads o.unit.unitName name := by
  have hkeys : (importsOf os).keys.Nodup := by
    rw [← h.map_unitName] at hnames
    exact hnames.sublist (keys_importsOf_sublist os)
  have hentry :
      (o.unit.unitName, o.session.imported.filter (· != o.unit.unitName)) ∈ importsOf os :=
    List.mem_filterMap.mpr ⟨o, ho, by rw [Outcome.imports?, hout]⟩
  rw [Imports.Leads, (Table.mem_iff_get?_eq_some hkeys).mp hentry]
  exact List.mem_filter.mpr ⟨hname, by simpa using hother⟩

end Outcomes

end All

/-! ### The run -/

/-- The units kept in a run, without the files of the run as a whole. -/
def converted (m : Model) (p : Profile) (strategy : Option DelegateStrategy) :
    Except Halt Result := do
  let (r, imports) ← (sortBy (fun a b => textLe a.unitName b.unitName) m.units).foldlM
    (renderNext m p (strategy.getD p.delegateStrategy)) ({}, [])
  return dropDependents imports r

/-- A result with the files that belong to the run as a whole. -/
def Result.withSupport (m : Model) (p : Profile) (r : Result) : Result :=
  if r.units.isEmpty then r else { r with units := r.units ++ (supportUnits m p r.units).getD [] }

theorem exists_converted {m : Model} {p : Profile} {strategy : Option DelegateStrategy}
    {result : Result} (h : renderAll m p strategy = .ok result) :
    ∃ kept, converted m p strategy = .ok kept ∧ result = kept.withSupport m p := by
  obtain ⟨⟨r, imports⟩, hfold, h⟩ := bind_eq_ok_iff.mp h
  refine ⟨dropDependents imports r, bind_eq_ok_iff.mpr ⟨_, hfold, rfl⟩, ?_⟩
  dsimp only at h
  rw [complete] at h
  rw [Result.withSupport]
  split at h
  · rw [if_pos ‹_›, Except.ok.inj h]
  · rw [if_neg ‹_›]
    cases hsupport : supportUnits m p (dropDependents imports r).units <;>
      rw [hsupport] at h <;> cases h
    rfl

@[simp] theorem refused_withSupport (m : Model) (p : Profile) (r : Result) :
    (r.withSupport m p).refused = r.refused := by
  unfold Result.withSupport
  split <;> rfl

@[simp] theorem diagnostics_withSupport (m : Model) (p : Profile) (r : Result) :
    (r.withSupport m p).diagnostics = r.diagnostics := by
  unfold Result.withSupport
  split <;> rfl

/-- What the file of a kept unit imports has a file that is kept. -/
def ImportsMet (m : Model) (p : Profile) (strategy : DelegateStrategy) (kept : Result) : Prop :=
  ∀ u ∈ m.units, ∀ out s, renderUnit (unitEnv m p strategy u) = .ok (.ok out, s) →
    out ∈ kept.units →
    ∀ name ∈ s.imported, ∃ v ∈ m.units, v.unitName = name ∧
      ∃ out' s', renderUnit (unitEnv m p strategy v) = .ok (.ok out', s') ∧ out' ∈ kept.units

section Run

variable {m : Model} {p : Profile} {strategy : Option DelegateStrategy} {kept : Result}

variable (hnames : (m.units.map SourceUnit.unitName).Nodup)
  (h : converted m p strategy = .ok kept)
include hnames h

/-- A run keeps what is left of its outcomes once refusals have spread. -/
theorem exists_outcomes_of_converted :
    ∃ us os, us.Perm m.units ∧ (us.map SourceUnit.unitName).Nodup ∧
      Outcomes m p (strategy.getD p.delegateStrategy) us os ∧
      kept = dropDependents (importsOf os) (resultOf os) := by
  have hperm := sortBy_perm (fun a b : SourceUnit => textLe a.unitName b.unitName) m.units
  have hsorted := (hperm.map SourceUnit.unitName).nodup_iff.mpr hnames
  obtain ⟨⟨r, imports⟩, hfold, h⟩ := bind_eq_ok_iff.mp h
  cases h
  obtain ⟨os, hos, rfl, rfl⟩ := exists_outcomes hsorted hfold
  exact ⟨_, os, hperm, hsorted, hos, rfl⟩

theorem importsMet_of_converted : ImportsMet m p (strategy.getD p.delegateStrategy) kept := by
  obtain ⟨_, os, hperm, hnodup, hos, rfl⟩ := exists_outcomes_of_converted hnames h
  obtain ⟨_, hspread⟩ := exists_spread (importsOf os) (hos.settled hnodup)
  intro u hu out s hrendered hout name hname
  obtain ⟨o, ho, rfl⟩ := hos.exists_of_mem (hperm.mem_iff.mpr hu)
  rw [hos.rendered o ho] at hrendered
  obtain ⟨hending, rfl⟩ := Prod.mk.inj (Except.ok.inj hrendered)
  have hrendered := hending ▸ hos.rendered o ho
  by_cases hself : name = o.unit.unitName
  · exact ⟨o.unit, hu, hself.symm, out, o.session, hrendered, hout⟩
  · obtain ⟨v, hv, rfl⟩ := importsKnown_of_renderUnit hrendered name hname
    have hkept : v.unitName ∉ (dropDependents (importsOf os) (resultOf os)).refused.keys := by
      refine hspread.whole out hout _ ?_
      rw [hos.source_eq ho hending]
      exact hos.leads hnodup ho hending hname hself
    obtain ⟨o', ho', rfl⟩ := hos.exists_of_mem (hperm.mem_iff.mpr hv)
    cases hending' : o'.ending with
    | error r =>
      refine absurd ((hspread.least _).mpr (.inl ?_)) hkept
      exact mem_keys_refused.mpr ⟨o', ho', rfl, r, hending'⟩
    | ok out' =>
      refine ⟨o'.unit, hv, rfl, out', o'.session, hending' ▸ hos.rendered o' ho', ?_⟩
      rw [hspread.units, List.mem_filter, hos.source_eq ho' hending']
      exact ⟨mem_units_resultOf.mpr ⟨o', ho', hending'⟩, decide_eq_true hkept⟩

/-- **A run keeps or refuses each of its units**, and none is both. -/
theorem names_perm_of_converted : kept.names.Perm (m.units.map SourceUnit.unitName) := by
  obtain ⟨_, _, hperm, hnodup, hos, rfl⟩ := exists_outcomes_of_converted hnames h
  exact (names_dropDependents_perm _ (hos.settled hnodup)).trans
    (hos.names_perm.trans (hperm.map _))

/-- **A unit is not refused without an error of its own.** -/
theorem exists_error_of_converted (hname : name ∈ kept.refused.keys) :
    ∃ d ∈ kept.diagnostics, d.severity = .error ∧ d.unitName = name := by
  obtain ⟨_, os, -, hnodup, hos, rfl⟩ := exists_outcomes_of_converted hnames h
  obtain ⟨_, hspread⟩ := exists_spread (importsOf os) (hos.settled hnodup)
  rw [hspread.refused, Table.keys, List.map_append, List.mem_append] at hname
  rw [hspread.diagnostics]
  rcases hname with hrefused | hdropped
  · obtain ⟨o, ho, rfl, r, hending⟩ := mem_keys_refused.mp hrefused
    refine ⟨r.diagnostic, List.mem_append_left _ (List.mem_flatMap.mpr ⟨o, ho, ?_⟩), rfl, ?_⟩
    · rw [Outcome.diagnostics, hending]
      exact List.mem_cons_self
    · exact unitName_of_renderUnit (hending ▸ hos.rendered o ho)
  · rw [List.map_map] at hdropped
    obtain ⟨d, hd, rfl⟩ := List.mem_map.mp hdropped
    exact ⟨d.refusal.diagnostic, List.mem_append_right _ (List.mem_map_of_mem hd), rfl, rfl⟩

omit hnames h

/-- A file of the run as a whole is one of the profile or a marker. -/
theorem mem_supportUnits {units : List OutputUnit} {o : OutputUnit}
    (h : o ∈ (supportUnits m p units).getD []) :
    (∃ f ∈ p.supportFiles, ∃ text, o = supportUnit f.1 text) ∨
      ∃ name ∈ p.packageMarker, ∃ d, o = supportUnit (Path.append d name) "" := by
  have hprofile (ho : o ∈ profileFiles m p) :
      ∃ f ∈ p.supportFiles, ∃ text, o = supportUnit f.1 text := by
    obtain ⟨f, hf, rfl⟩ := List.mem_map.mp ho
    exact ⟨f, mem_sortBy.mp hf, _, rfl⟩
  rw [supportUnits] at h
  split at h
  · exact .inl (hprofile h)
  · rename_i hmarker
    cases hclimb : climbAll [] units with
    | none =>
      rw [hclimb] at h
      cases h
    | some =>
      rw [hclimb] at h
      refine (List.mem_append.mp h).imp hprofile fun h => ?_
      obtain ⟨d, -, rfl⟩ := List.mem_map.mp h
      cases hname : p.packageMarker with
      | none => simp [hname] at hmarker
      | some name => exact ⟨name, rfl, d, rfl⟩

theorem sources_withSupport (m : Model) (p : Profile) (r : Result) :
    ∃ support, (r.withSupport m p).units.map OutputUnit.source =
      r.units.map OutputUnit.source ++ support ∧
      ∀ source ∈ support, source = "" := by
  unfold Result.withSupport
  split
  · exact ⟨[], by simp, by simp⟩
  · refine ⟨((supportUnits m p r.units).getD []).map OutputUnit.source, List.map_append ..,
      fun source h => ?_⟩
    obtain ⟨o, ho, rfl⟩ := List.mem_map.mp h
    obtain ⟨_, -, _, rfl⟩ | ⟨_, -, _, rfl⟩ := mem_supportUnits ho <;> rfl

end Run

/-- **Refusals spread exactly as far as imports reach**, and no file of a run imports a missing one,
if the units of the model have different names. A run hands over what the first part asks for. -/
theorem refusals_spread_exactly (imports : Imports) {r : Result} (hr : r.Settled) {m : Model}
    {p : Profile} {strategy : Option DelegateStrategy} {result : Result}
    (hnames : (m.units.map SourceUnit.unitName).Nodup)
    (hrun : renderAll m p strategy = .ok result) :
    SpreadsExactly imports r ∧ ∃ rendered imported, rendered.Settled ∧
        (∀ name ∈ imported.keys, name ∈ rendered.units.map OutputUnit.source) ∧
        result = (dropDependents imported rendered).withSupport m p ∧
        ImportsMet m p (strategy.getD p.delegateStrategy) (dropDependents imported rendered) := by
  refine ⟨spreadsExactly_of_settled imports hr, ?_⟩
  obtain ⟨_, hconverted, rfl⟩ := exists_converted hrun
  have hmet := importsMet_of_converted hnames hconverted
  obtain ⟨_, os, -, hnodup, hos, rfl⟩ := exists_outcomes_of_converted hnames hconverted
  exact ⟨resultOf os, importsOf os, hos.settled hnodup, hos.mem_sources_of_mem_keys, rfl, hmet⟩

def tapModule : SourceUnit :=
  { bareUnit "Tap.java" "Tap" .utilityModule with methods := [{
      name := "tap", params := [⟨"field", "WebElement"⟩], returnType := "void", role := .function
      static := true, provenance := ⟨"Tap.java", 2, 4⟩
      actions := [.interact {
        element := ⟨"field", "field", .param⟩, op := "tap", args := [],
          provenance := ⟨"Tap.java", 3, 3⟩ }] }] }

def flowTest (unitName simpleName : String) (actions : List Action) : SourceUnit :=
  { bareUnit unitName simpleName .testClass with
    tests := [{ name := "flow", provenance := ⟨unitName, 2, 5⟩, actions }] }

def tapCall (unitName : String) : Action :=
  .delegate {
    call := .mk unitName "Tap" "tap" [.literal { value := .text "x" }] .static "" "Tap.tap(x)"
    provenance := ⟨unitName, 3, 3⟩ }

def tapUnits (rest : String) : List SourceUnit :=
  [flowTest "Flow.java" "FlowTest" [tapCall "Flow.java"], flowTest rest "RestTest" [], tapModule]

def tapModel (rest : String) : Model := Linking.linkedModel (tapUnits rest) []

def bareOutput (source : String) : OutputUnit :=
  { qualifiedName := source, path := source, kind := .pageObject, source, text := "" }

/-- A refusal takes two rounds: the first unit imports the second. -/
def chainResult : Result :=
  { units := ["Flow.java", "Page.java", "Rest.java"].map bareOutput
    refused := [("Tap.java", { fault := .dependency [], unitName := "Tap.java" })] }

def chainImports : Imports :=
  [("Flow.java", ["Page.java"]), ("Page.java", ["Flow.java", "Tap.java"])]

theorem refusals_spread_exactly_tapModel :
    chainResult.Settled ∧ ((tapModel "Rest.java").units.map SourceUnit.unitName).Nodup ∧
      (dropDependents chainImports chainResult).refused.keys =
        ["Tap.java", "Page.java", "Flow.java"] ∧
      SpreadsExactly chainImports chainResult ∧
      ∃ result, renderAll (tapModel "Rest.java") playwrightTs none = .ok result ∧
        result.refused.keys = ["Tap.java", "Flow.java"] ∧
        ∃ rendered imported,
          result = (dropDependents imported rendered).withSupport
            (tapModel "Rest.java") playwrightTs ∧
          ImportsMet (tapModel "Rest.java") playwrightTs .call
            (dropDependents imported rendered) := by
  have hr : chainResult.Settled := ⟨by decide, by decide⟩
  have hnames : ((tapModel "Rest.java").units.map SourceUnit.unitName).Nodup := by decide +kernel
  have hkeys : (renderAll (tapModel "Rest.java") playwrightTs none).map (·.refused.keys) =
      .ok ["Tap.java", "Flow.java"] := by decide +kernel
  cases hrun : renderAll (tapModel "Rest.java") playwrightTs none with
  | error =>
    rw [hrun] at hkeys
    cases hkeys
  | ok result =>
    rw [hrun] at hkeys
    obtain ⟨hspread, rendered, imported, -, -, hresult, hmet⟩ :=
      refusals_spread_exactly chainImports hr hnames hrun
    exact ⟨hr, hnames, by decide, hspread, result, rfl, Except.ok.inj hkeys, rendered, imported,
      hresult, hmet⟩

/-- Whether a result has the file of a unit, but not one that it imports. -/
def keepsMissingImport (m : Model) (u : SourceUnit) (name : String) : Bool :=
  match renderAll m playwrightTs none, renderUnit (unitEnv m playwrightTs .call u) with
  | .ok result, .ok (.ok out, s) =>
    decide (out ∈ result.units ∧ name ∈ s.imported ∧ name ∈ result.refused.keys ∧
      name ∉ result.units.map OutputUnit.source)
  | _, _ => false

/-- **A file can import one that is missing.** In a linked model two tests have one name. The first
imports a module that is refused; what counts as its imports are those of the second. -/
theorem imports_missing_of_shared_name : ∃ units m u result out s name,
    Linking.link units [] = .ok m ∧ u ∈ m.units ∧ renderAll m playwrightTs none = .ok result ∧
      renderUnit (unitEnv m playwrightTs .call u) = .ok (.ok out, s) ∧ out ∈ result.units ∧
      name ∈ s.imported ∧ name ∈ result.refused.keys ∧
        name ∉ result.units.map OutputUnit.source := by
  have hmissing : keepsMissingImport (tapModel "Flow.java")
      (flowTest "Flow.java" "FlowTest" [tapCall "Flow.java"]) "Tap.java" = true := by decide +kernel
  unfold keepsMissingImport at hmissing
  split at hmissing
  · rename_i result out s hresult hout
    obtain ⟨hkept, himported, hrefused, hsources⟩ := of_decide_eq_true hmissing
    exact ⟨tapUnits "Flow.java", tapModel "Flow.java", _, result, out, s, "Tap.java", rfl,
      List.mem_cons_self, hresult, hout, hkept, himported, hrefused, hsources⟩
  · cases hmissing

end TestMigration.Rendering
