import TestMigration.Proofs.Conversion.Order
import TestMigration.Proofs.Rendering.Outcomes
/-!
# What a report says about each source

A source can leave a run at four places: it is rejected when read, its unit is refused when rendered
or because of what it imports, or the run ends at linking. Reading and rendering each keep their own
books (`names_intakeOf_perm`, `Rendering.names_perm_of_converted`), and the report puts them
together: each source has been converted or has failed, and status and files follow from that
(`Report.Accounts`).

The files of the whole run come from no source: their source is the empty text, by which the report
tells them apart. A source with the empty name is lost with them (`unnamed_source_unaccounted_for`).
-/

namespace TestMigration

open Rendering

/-! ### What is to be shown -/

/-- A report accounts for sources; it matters whether they could be linked. -/
structure Report.Accounts (names : List String) (linked : Prop) (report : Report) : Prop where
  sources : linked → (report.converted ++ report.failed.keys).Perm names
  unlinked : ¬linked → report.converted = [] ∧ report.units = []
  success : report.status = .success ↔ report.failed = [] ∧ report.converted.Perm names ∧ names ≠ []
  mixed : report.status = .mixed ↔ report.converted ≠ [] ∧ report.failed ≠ []
  failure : report.status = .failure ↔ report.converted = []
  units : report.units = [] ↔ report.status = .failure
  errors : ∀ name ∈ report.failed.keys, ∃ d ∈ report.errors, d.unitName = name

theorem Report.Accounts.of_perm {names names' : List String} {linked : Prop} {report : Report}
    (h : report.Accounts names linked) (hperm : names.Perm names') :
    report.Accounts names' linked where
  sources hlinked := (h.sources hlinked).trans hperm
  unlinked := h.unlinked
  success := by
    have hempty : names ≠ [] ↔ names' ≠ [] := not_congr ⟨fun heq => by simpa [heq] using hperm,
      fun heq => by simpa [heq] using hperm⟩
    rw [h.success, hempty]
    exact and_congr_right fun _ => and_congr_left fun _ =>
      ⟨fun hall => hall.trans hperm, fun hall => hall.trans hperm.symm⟩
  mixed := h.mixed
  failure := h.failure
  units := h.units
  errors := h.errors

def Report.adding (report : Report) (more : List Diagnostic) : Report :=
  { report with diagnostics := report.diagnostics ++ more }

namespace Conversion

/-! ### Reports on an intake -/

/-- The names of all sources taken in, the units first. -/
def Intake.names (intake : Intake) : List String :=
  intake.units.map SourceUnit.unitName ++ intake.rejected.keys

/-- There is something to link, and it can be linked. -/
def Intake.Linked (intake : Intake) : Prop :=
  intake.units ≠ [] ∧ ∃ m, Linking.link intake.units intake.rejected.keys = .ok m

/-- An intake from sources of different names, none of them empty. -/
structure Intake.Proper (intake : Intake) : Prop where
  distinct : intake.names.Nodup
  named : "" ∉ intake.names
  own : ∀ entry ∈ intake.rejected, entry.2.unitName = entry.1

section Intake

variable {p : Profile} {strategy : DelegateStrategy} {intake : Intake} {report : Report}

theorem names_perm_of_link {units : List SourceUnit} {failed : List String} {m : Model}
    (h : Linking.link units failed = .ok m) :
    (m.units.map SourceUnit.unitName).Perm (units.map SourceUnit.unitName) := by
  obtain ⟨-, -, rfl⟩ := Linking.link_eq_ok_iff.mp h
  have hnames : (Linking.linkedModel units failed).units.map SourceUnit.unitName =
      (Linking.Project.ofUnits units).units.map SourceUnit.unitName := by
    rw [Linking.linkedModel, List.map_map]
    rfl
  rw [hnames]
  exact (sortBy_perm _ units).map _

theorem reportOf_cases (h : reportOf p strategy intake = .ok report) :
    (¬intake.Linked ∧ ∃ more, report = (intakeReport p strategy intake).adding more) ∨
      ∃ m result, intake.units ≠ [] ∧ Linking.link intake.units intake.rejected.keys = .ok m ∧
        renderAll m p (some strategy) = .ok result ∧
        report = renderedReport ((intakeReport p strategy intake).adding m.diagnostics) result := by
  unfold reportOf at h
  by_cases hempty : intake.units = []
  · rw [hempty] at h
    cases h
    exact .inl ⟨fun hlinked => hlinked.1 hempty, [], by simp [Report.adding]⟩
  · rw [if_neg (by simpa using hempty)] at h
    cases hlink : Linking.link intake.units intake.rejected.keys with
    | error =>
      rw [hlink] at h
      cases h
      refine .inl ⟨fun hlinked => ?_, _, rfl⟩
      obtain ⟨m, hm⟩ := hlinked.2
      rw [hlink] at hm
      cases hm
    | ok m =>
      rw [hlink] at h
      obtain ⟨result, hresult, h⟩ := bind_eq_ok_iff.mp h
      cases h
      exact .inr ⟨m, result, hempty, rfl, hresult, rfl⟩

theorem exists_error_of_rejected (p : Profile) (strategy : DelegateStrategy) (h : intake.Proper)
    {name : String} (hname : name ∈ intake.rejected.keys) :
    ∃ d ∈ (intakeReport p strategy intake).diagnostics, d.severity = .error ∧
      d.unitName = name := by
  obtain ⟨entry, hentry, rfl⟩ := List.mem_map.mp hname
  exact ⟨entry.2.diagnostic, List.mem_append_left _ (List.mem_map.mpr ⟨entry, hentry, rfl⟩), rfl,
    h.own entry hentry⟩

theorem keys_failed_intakeReport (p : Profile) (strategy : DelegateStrategy) (intake : Intake) :
    (intakeReport p strategy intake).failed.keys = intake.rejected.keys := by
  rw [intakeReport, Table.keys, List.map_map]
  rfl

/-- After linking, the converted sources are those of the kept files. -/
theorem converted_renderedReport {start : Report} {m : Model} {kept : Result}
    (hnamed : "" ∉ kept.units.map OutputUnit.source) :
    (renderedReport start (kept.withSupport m p)).converted = kept.units.map OutputUnit.source := by
  obtain ⟨support, hsources, hempty⟩ := sources_withSupport m p kept
  have hfilter : (renderedReport start (kept.withSupport m p)).converted =
      ((kept.withSupport m p).units.map OutputUnit.source).filter (!·.isEmpty) := rfl
  rw [hfilter, hsources, List.filter_append]
  have hkept : (kept.units.map OutputUnit.source).filter (!·.isEmpty) =
      kept.units.map OutputUnit.source := by
    refine List.filter_eq_self.mpr fun source hsource => ?_
    have hne : source ≠ "" := fun heq => hnamed (heq ▸ hsource)
    simpa using hne
  have hsupport : support.filter (!·.isEmpty) = [] := by
    refine List.filter_eq_nil_iff.mpr fun source hsource => ?_
    simp [hempty source hsource]
  rw [hkept, hsupport, List.append_nil]

theorem status_renderedReport (start : Report) (result : Result) :
    let report := renderedReport start result
    (report.status = .failure ↔ report.converted = []) ∧
      (report.status = .success ↔ report.converted ≠ [] ∧ report.failed = []) ∧
      (report.status = .mixed ↔ report.converted ≠ [] ∧ report.failed ≠ []) := by
  have hstatus : (renderedReport start result).status =
      if (renderedReport start result).converted.isEmpty then .failure
      else if (renderedReport start result).failed.isEmpty then .success else .mixed := rfl
  dsimp only
  rw [hstatus]
  by_cases hconverted : (renderedReport start result).converted = []
  · simp [hconverted]
  · by_cases hfailed : (renderedReport start result).failed = []
    · simp [hconverted, hfailed]
    · simp [hconverted, hfailed]

theorem units_renderedReport (start : Report) (result : Result) :
    (renderedReport start result).units = [] ↔ (renderedReport start result).status = .failure := by
  have hunits : (renderedReport start result).units =
      if (renderedReport start result).converted.isEmpty then [] else result.units := rfl
  have hconverted : (renderedReport start result).converted =
      (result.units.map OutputUnit.source).filter (!·.isEmpty) := rfl
  rw [(status_renderedReport start result).1, hunits]
  by_cases hnone : (renderedReport start result).converted = []
  · simp [hnone]
  · rw [if_neg (by simpa using hnone), iff_false_right hnone]
    intro hempty
    rw [hconverted, hempty] at hnone
    exact hnone rfl

/-- A report after reading: it names what was rejected, with errors. -/
structure Intake.Reported (intake : Intake) (start : Report) : Prop where
  failed : start.failed.keys = intake.rejected.keys
  errors : ∀ name ∈ intake.rejected.keys, ∃ d ∈ start.diagnostics, d.severity = .error ∧
    d.unitName = name

theorem reported_adding (p : Profile) (strategy : DelegateStrategy) (h : intake.Proper)
    (more : List Diagnostic) : intake.Reported ((intakeReport p strategy intake).adding more) where
  failed := keys_failed_intakeReport p strategy intake
  errors name hname := by
    obtain ⟨d, hd, hown⟩ := exists_error_of_rejected p strategy h hname
    exact ⟨d, List.mem_append_left _ hd, hown⟩

theorem accounts_of_unlinked (h : intake.Proper) (hlinked : ¬intake.Linked)
    (more : List Diagnostic) :
    ((intakeReport p strategy intake).adding more).Accounts intake.names intake.Linked where
  sources hlinked' := absurd hlinked' hlinked
  unlinked _ := ⟨rfl, rfl⟩
  success := by
    refine ⟨fun hstatus => (by cases hstatus), ?_⟩
    rintro ⟨-, hall, hsome⟩
    exact absurd (List.nil_perm.mp hall) hsome
  mixed := ⟨fun hstatus => (by cases hstatus), fun hboth => absurd rfl hboth.1⟩
  failure := ⟨fun _ => rfl, fun _ => rfl⟩
  units := ⟨fun _ => rfl, fun _ => rfl⟩
  errors name hname := by
    have hstart := reported_adding p strategy h more
    rw [hstart.failed] at hname
    obtain ⟨d, hd, hseverity, hown⟩ := hstart.errors name hname
    exact ⟨d, List.mem_filter.mpr ⟨hd, by simp [hseverity]⟩, hown⟩

/-- A result of rendering is about the units of an intake. -/
structure Intake.Rendered (intake : Intake) (kept : Result) : Prop where
  names : kept.names.Perm (intake.units.map SourceUnit.unitName)
  errors : ∀ name ∈ kept.refused.keys, ∃ d ∈ kept.diagnostics, d.severity = .error ∧
    d.unitName = name

theorem exists_rendered (h : intake.Proper) {m : Model} {result : Result}
    (hlink : Linking.link intake.units intake.rejected.keys = .ok m)
    (hresult : renderAll m p (some strategy) = .ok result) :
    ∃ kept, intake.Rendered kept ∧ result = kept.withSupport m p := by
  have hperm := names_perm_of_link hlink
  have hnames := hperm.nodup_iff.mpr (List.nodup_append.mp h.distinct).1
  obtain ⟨kept, hkept, rfl⟩ := exists_converted hresult
  exact ⟨kept, ⟨(names_perm_of_converted hnames hkept).trans hperm,
    fun name hname => exists_error_of_converted hnames hkept hname⟩, rfl⟩

section Rendered

variable {kept : Result} {start : Report} (h : intake.Proper) (hkept : intake.Rendered kept)
variable (hstart : intake.Reported start) (m : Model) (p : Profile)

include h hkept hstart

theorem keys_failed_perm : (renderedReport start (kept.withSupport m p)).failed.keys.Perm
    (intake.rejected.keys ++ kept.refused.keys) := by
  let entry : String × Refusal → String × String := fun e => (e.1, e.2.fault.message)
  let sorted := sortBy (fun a b => textLe a.1 b.1) kept.refused
  have hkeys : (Table.keys (sorted.map entry)).Perm kept.refused.keys := by
    rw [Table.keys, List.map_map]
    exact (sortBy_perm _ kept.refused).map _
  have hunits := List.nodup_append.mp h.distinct
  have hnodup := List.nodup_append.mp (hkept.names.nodup_iff.mpr hunits.1)
  -- A unit that is refused has been read, so it has not been rejected before.
  have hnew : ∀ name ∈ Table.keys (sorted.map entry), name ∉ start.failed.keys := by
    intro name hname hrejected
    rw [hstart.failed] at hrejected
    have hunit := hkept.names.mem_iff.mp (List.mem_append_right _ (hkeys.mem_iff.mp hname))
    exact hunits.2.2 name hunit name hrejected rfl
  have hmerge := Table.merge_eq_append (hkeys.nodup_iff.mpr hnodup.2.1) hnew
  have hfailed : (renderedReport start (kept.withSupport m p)).failed =
      Table.merge start.failed (sorted.map entry) := by
    rw [renderedReport, refused_withSupport]
  rw [hfailed, hmerge, Table.keys, List.map_append, ← Table.keys, hstart.failed]
  exact hkeys.append_left _

theorem sources_perm : ((renderedReport start (kept.withSupport m p)).converted ++
    (renderedReport start (kept.withSupport m p)).failed.keys).Perm intake.names := by
  have hnamed : "" ∉ kept.units.map OutputUnit.source := fun hmem => h.named <|
    List.mem_append_left _ (hkept.names.mem_iff.mp (List.mem_append_left _ hmem))
  rw [converted_renderedReport hnamed]
  refine ((keys_failed_perm h hkept hstart m p).append_left _).trans ?_
  refine (List.perm_append_comm.append_left _).trans ?_
  rw [← List.append_assoc]
  exact hkept.names.append_right _

theorem exists_error_of_failed {name : String}
    (hname : name ∈ (renderedReport start (kept.withSupport m p)).failed.keys) :
    ∃ d ∈ (renderedReport start (kept.withSupport m p)).errors, d.unitName = name := by
  have hdiagnostics : (renderedReport start (kept.withSupport m p)).diagnostics =
      start.diagnostics ++ kept.diagnostics := by
    rw [renderedReport, diagnostics_withSupport]
  rw [(keys_failed_perm h hkept hstart m p).mem_iff, List.mem_append] at hname
  rw [Report.errors, hdiagnostics]
  rcases hname with hrejected | hrefused
  · obtain ⟨d, hd, hseverity, hown⟩ := hstart.errors name hrejected
    exact ⟨d, List.mem_filter.mpr ⟨List.mem_append_left _ hd, by simp [hseverity]⟩, hown⟩
  · obtain ⟨d, hd, hseverity, hown⟩ := hkept.errors name hrefused
    exact ⟨d, List.mem_filter.mpr ⟨List.mem_append_right _ hd, by simp [hseverity]⟩, hown⟩

theorem accounts_of_rendered (hlinked : intake.Linked) :
    (renderedReport start (kept.withSupport m p)).Accounts intake.names intake.Linked := by
  have hsources := sources_perm h hkept hstart m p
  obtain ⟨hfailure, hsuccess, hmixed⟩ := status_renderedReport start (kept.withSupport m p)
  refine ⟨fun _ => hsources, fun hnot => absurd hlinked hnot, hsuccess.trans ⟨?_, ?_⟩, hmixed,
    hfailure,
    units_renderedReport start _, fun name hname => exists_error_of_failed h hkept hstart m p hname⟩
  · rintro ⟨hsome, hnone⟩
    rw [hnone, Table.keys, List.map_nil, List.append_nil] at hsources
    exact ⟨hnone, hsources, fun hempty => hsome (List.perm_nil.mp (hempty ▸ hsources))⟩
  · rintro ⟨hnone, hall, hnames⟩
    exact ⟨fun hempty => hnames (List.nil_perm.mp (hempty ▸ hall)), hnone⟩

end Rendered

/-- **A report on a proper intake accounts for it.** -/
theorem accounts_of_reportOf (h : intake.Proper)
    (hreport : reportOf p strategy intake = .ok report) :
    report.Accounts intake.names intake.Linked := by
  rcases reportOf_cases hreport with ⟨hlinked, more, rfl⟩ | ⟨m, _, hsome, hlink, hresult, rfl⟩
  · exact accounts_of_unlinked h hlinked more
  · obtain ⟨_, hkept, rfl⟩ := exists_rendered h hlink hresult
    exact accounts_of_rendered h hkept (reported_adding p strategy h m.diagnostics) m p
      ⟨hsome, m, hlink⟩

end Intake

/-! ### Reports on sources -/

/-- The sources have been read, and their units can be linked. -/
def LinkingSucceeds (parser : Syntax.Parser) (sources : List (String × String)) : Prop :=
  ∃ intake, sources.foldlM (readNext parser) {} = .ok intake ∧ intake.sorted.Linked

section Sources

variable {parser : Syntax.Parser} {sources : List (String × String)}

theorem names_sorted_perm (intake : Intake) : intake.sorted.names.Perm intake.names :=
  ((sortBy_perm _ intake.units).map _).append ((sortBy_perm _ intake.rejected).map _)

theorem proper_intakeOf (hnames : (sources.map Prod.fst).Nodup)
    (hnamed : "" ∉ sources.map Prod.fst) (hread : ∀ source ∈ sources, Readable parser source) :
    (intakeOf parser sources).sorted.Proper := by
  have hperm := (names_sorted_perm (intakeOf parser sources)).trans (names_intakeOf_perm hread)
  refine ⟨hperm.nodup_iff.mpr hnames, fun hmem => hnamed (hperm.mem_iff.mp hmem),
    fun entry hentry => ?_⟩
  obtain ⟨source, -, hrejection⟩ := List.mem_filterMap.mp (mem_sortBy.mp hentry)
  exact own_of_rejection? hrejection

end Sources

/-- **A report accounts for every source once, and its status is true**, whatever the parser, if the
sources have different names and none is empty. -/
theorem sources_accounted_for {parser : Syntax.Parser} {sources : List (String × String)}
    (hnames : (sources.map Prod.fst).Nodup) (hnamed : "" ∉ sources.map Prod.fst) {p : Profile}
    {strategy : Option DelegateStrategy} {report : Report}
    (h : convert parser sources p strategy = .ok report) :
    report.Accounts (sources.map Prod.fst) (LinkingSucceeds parser sources) := by
  obtain ⟨hread, hreport⟩ := (convert_eq_ok_iff hnames).mp h
  have haccounts := accounts_of_reportOf (proper_intakeOf hnames hnamed hread) hreport
  have hlinked : (intakeOf parser sources).sorted.Linked = LinkingSucceeds parser sources := by
    refine propext ⟨fun hlinked =>
      ⟨_, (foldlM_readNext_eq_ok_iff hnames).mpr ⟨hread, rfl⟩, hlinked⟩, ?_⟩
    rintro ⟨_, hintake, hlinked⟩
    rwa [((foldlM_readNext_eq_ok_iff hnames).mp hintake).2] at hlinked
  rw [hlinked] at haccounts
  exact haccounts.of_perm ((names_sorted_perm _).trans (names_intakeOf_perm hread))

theorem sources_accounted_for_mixedSources : ∃ report,
    (mixedSources.map Prod.fst).Nodup ∧ "" ∉ mixedSources.map Prod.fst ∧
      convert wordParser mixedSources Profile.playwrightTs none = .ok report ∧
      (report.converted, report.failed.keys, report.status) =
        (["A.java"], ["C.java", "B.java"], .mixed) ∧
      report.Accounts (mixedSources.map Prod.fst) (LinkingSucceeds wordParser mixedSources) := by
  obtain ⟨report, hrun, hreport⟩ := exists_report_mixedSources
  have hnames : (mixedSources.map Prod.fst).Nodup := by decide
  have hnamed : "" ∉ mixedSources.map Prod.fst := by decide
  exact ⟨report, hnames, hnamed, hrun, hreport, sources_accounted_for hnames hnamed hrun⟩

/-- **A source without a name is lost.** It is written, but neither converted nor failed, and the
status is that of a run without failures. -/
theorem unnamed_source_unaccounted_for : ∃ report,
    convert wordParser [("", "class B { }"), plainSource] Profile.playwrightTs none = .ok report ∧
      report.converted = ["A.java"] ∧ report.failed.keys = [] ∧ report.status = .success ∧
      ∀ linked, ¬report.Accounts ["", "A.java"] linked := by
  obtain ⟨report, hrun, hreport⟩ : ∃ report, convert wordParser [("", "class B { }"), plainSource]
      Profile.playwrightTs none = .ok report ∧
        (report.converted, report.failed.keys, report.status) = (["A.java"], [], .success) :=
    exists_of_map_eq_ok (by decide +kernel)
  obtain ⟨hconverted, hrest⟩ := Prod.mk.inj hreport
  obtain ⟨hfailed, hstatus⟩ := Prod.mk.inj hrest
  refine ⟨report, hrun, hconverted, hfailed, hstatus, fun linked haccounts => ?_⟩
  have hall := (haccounts.success.mp hstatus).2.1.length_eq
  rw [hconverted] at hall
  cases hall

end Conversion

end TestMigration
