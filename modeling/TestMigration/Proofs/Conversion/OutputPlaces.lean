import TestMigration.Proofs.Conversion.Accounting
import TestMigration.Proofs.Files.AllOrNothing
import TestMigration.Proofs.Text.TargetNames
/-!
# Where the files of a run are written

The file of a unit stands in the directory of its source, under a name that comes from the class and
not from the source. Besides there are the files of the profile and, with a package marker, one file
in each directory above a unit. So each file of a report has a directory and a name (`Origin`), and
two files are at one place exactly if their directories have the same components and their names are
the same.

Nothing keeps these places apart: sources of one directory may hold classes that the target does not
tell apart by name (`NamedAlike`). Then the report is fine, and writing it is refused.
-/

namespace TestMigration.Conversion

open Text Rendering Profile

/-! ### Names of files -/

/-- What a file is named after: the class, as the target spells modules. -/
def stem (p : Profile) (u : SourceUnit) : String :=
  if p.naming.modules = .snake then snakeCase u.simpleName else u.simpleName

/-- There is neither a slash nor a dot in the stem of a unit. -/
def PlainStem (p : Profile) (u : SourceUnit) : Prop :=
  '/' ∉ (stem p u).toList ∧ '.' ∉ (stem p u).toList

instance (p : Profile) : DecidablePred (PlainStem p) := fun _ => inferInstanceAs (Decidable (_ ∧ _))

/-- The name of the file of a unit. -/
def fileName (p : Profile) (u : SourceUnit) : String :=
  fill ((Table.get? u.kind.word p.paths).getD "")
    [("name", u.simpleName), ("module", p.naming.moduleName u.simpleName)]

/-- What files for units of a kind have behind their stems. -/
def ending (p : Profile) (kind : UnitKind) : String :=
  fill ((Table.get? kind.word p.paths).getD "") [("name", ""), ("module", "")]

/-- The target makes one file name of the classes of two units: under snake case of names with the
same words, else of equal names; and files of their kinds end alike. -/
def NamedAlike (p : Profile) (u v : SourceUnit) : Prop :=
  (if p.naming.modules = .snake then SameWords u.simpleName v.simpleName
    else u.simpleName = v.simpleName) ∧ ending p u.kind = ending p v.kind

section Names

variable {p : Profile} {u v : SourceUnit}

theorem mem_endings (hp : p ∈ builtins) {kind : UnitKind} (hkind : kind ≠ .support) :
    (ending p kind).toList ∈ [".py".toList, ".spec.ts".toList, ".ts".toList] := by
  rcases List.mem_pair.mp hp with rfl | rfl <;> cases kind <;>
    first | decide | exact absurd rfl hkind

theorem exists_ending (hp : p ∈ builtins) {kind : UnitKind} (hkind : kind ≠ .support) :
    ∃ rest, (ending p kind).toList = '.' :: rest ∧ '/' ∉ rest ∧ 2 ≤ rest.length := by
  have hall : ∀ cs ∈ [".py".toList, ".spec.ts".toList, ".ts".toList],
      cs = '.' :: cs.tail ∧ '/' ∉ cs.tail ∧ 2 ≤ cs.tail.length := by decide
  exact ⟨_, hall _ (mem_endings hp hkind)⟩

theorem fill_fileNames (name module : String) :
    let values := [("name", name), ("module", module)]
    fill "$name.spec.ts" values = name ++ ".spec.ts" ∧ fill "$name.ts" values = name ++ ".ts" ∧
      fill "$module.py" values = module ++ ".py" := by
  refine ⟨?_, ?_, ?_⟩ <;>
    rw [← String.toList_inj, fill, String.toList_ofList, String.toList_append] <;>
    exact List.append_assoc _ ['.'] _

theorem fileName_eq (hp : p ∈ builtins) (hkind : u.kind ≠ .support) :
    fileName p u = stem p u ++ ending p u.kind := by
  obtain ⟨hspec, hplain, hmodule⟩ := fill_fileNames u.simpleName (p.naming.moduleName u.simpleName)
  obtain ⟨hspec', hplain', hmodule'⟩ := fill_fileNames "" ""
  unfold fileName ending
  rcases List.mem_pair.mp hp with rfl | rfl
  · have hstem : stem playwrightPython u = playwrightPython.naming.moduleName u.simpleName := rfl
    cases h : u.kind with
    | support => exact absurd h hkind
    | _ => exact hmodule.trans (hstem ▸ congrArg _ (hmodule'.trans (String.empty_append ..)).symm)
  · have hstem : stem playwrightTs u = u.simpleName := rfl
    cases h : u.kind with
    | support => exact absurd h hkind
    | testClass | suite =>
      exact hspec.trans (hstem ▸ congrArg _ (hspec'.trans (String.empty_append ..)).symm)
    | pageObject | utilityModule =>
      exact hplain.trans (hstem ▸ congrArg _ (hplain'.trans (String.empty_append ..)).symm)

theorem isName_fileName (hp : p ∈ builtins) (hplain : '/' ∉ (stem p u).toList)
    (hkind : u.kind ≠ .support) :
    Path.IsName (fileName p u) := by
  obtain ⟨rest, hrest, hslash, _⟩ := exists_ending hp hkind
  have hname : (fileName p u).toList = (stem p u).toList ++ '.' :: rest := by
    rw [fileName_eq hp hkind, String.toList_append, hrest]
  have hlong : ∀ name : String, name.toList.length < 3 → fileName p u ≠ name := by
    rintro name hshort rfl
    rw [hname, List.length_append, List.length_cons] at hshort
    omega
  refine ⟨⟨hlong _ (by decide), hlong _ (by decide), ?_⟩, hlong _ (by decide)⟩
  simpa [hname, hslash] using hplain

/-- A stem without a dot can be told from an ending that starts with one. -/
theorem append_dot_inj {name name' : String} {ending ending' : List Char} (h : '.' ∉ name.toList)
    (h' : '.' ∉ name'.toList)
    (heq : name.toList ++ '.' :: ending = name'.toList ++ '.' :: ending') :
    name = name' ∧ ending = ending' := by
  have hcut {xs ys : List Char} (hx : '.' ∉ xs) : (xs ++ '.' :: ys).takeWhile (· ≠ '.') = xs := by
    rw [List.takeWhile_append_of_pos]
    · simp
    · intro c hc
      simpa using fun heq : c = '.' => hx (heq ▸ hc)
  have hnames : name.toList = name'.toList := by rw [← hcut h, heq, hcut h']
  rw [hnames] at heq
  exact ⟨String.toList_inj.mp hnames, (List.cons.inj (List.append_cancel_left heq)).2⟩

/-- **Which classes get files of one name.** -/
theorem fileName_eq_iff (hp : p ∈ builtins) (hu : PlainStem p u) (hv : PlainStem p v)
    (hukind : u.kind ≠ .support) (hvkind : v.kind ≠ .support) :
    fileName p u = fileName p v ↔ NamedAlike p u v := by
  have hstems : stem p u = stem p v ↔
    if p.naming.modules = .snake then SameWords u.simpleName v.simpleName
      else u.simpleName = v.simpleName := by
    unfold stem
    split
    · exact snakeCase_eq_iff
    · exact Iff.rfl
  obtain ⟨_, hrest, -⟩ := exists_ending hp hukind
  obtain ⟨_, hrest', -⟩ := exists_ending hp hvkind
  rw [NamedAlike, ← hstems, fileName_eq hp hukind, fileName_eq hp hvkind]
  constructor
  · intro heq
    rw [← String.toList_inj, String.toList_append, String.toList_append, hrest, hrest'] at heq
    obtain ⟨hstem, hsame⟩ := append_dot_inj hu.2 hv.2 heq
    exact ⟨hstem, String.toList_inj.mp (by rw [hrest, hrest', hsame])⟩
  · rintro ⟨hstem, hending⟩
    rw [hstem, hending]

theorem fileName_not_mem_supportFiles (hp : p ∈ builtins) (hplain : PlainStem p u)
    (hkind : u.kind ≠ .support) : fileName p u ∉ p.supportFiles.keys := by
  have hends : ∀ name ∈ p.supportFiles.keys, name.toList.dropWhile (· ≠ '.') ∉
      [".py".toList, ".spec.ts".toList, ".ts".toList] := by
    rcases List.mem_pair.mp hp with rfl | rfl <;> decide +kernel
  obtain ⟨_, hrest, -⟩ := exists_ending hp hkind
  intro hmem
  refine hends _ hmem ?_
  rw [fileName_eq hp hkind, String.toList_append, List.dropWhile_append_of_pos]
  · rw [hrest, List.dropWhile_cons_of_neg (by simp), ← hrest]
    exact mem_endings hp hkind
  · intro c hc
    simpa using fun heq : c = '.' => hplain.2 (heq ▸ hc)

theorem path_of_outputPath (hp : p ∈ builtins) {path : String} (h : outputPath p u = .ok path) :
    u.kind ≠ .support ∧
      ('/' ∉ (stem p u).toList →
        path = Path.append (Path.directory u.unitName) (fileName p u)) := by
  have hkind : u.kind ≠ .support := fun hsupport => by
    unfold outputPath at h
    rw [hsupport] at h
    rcases List.mem_pair.mp hp with rfl | rfl <;> cases h
  refine ⟨hkind, fun hplain => ?_⟩
  unfold outputPath at h
  split at h
  · cases h
  · rename_i template htemplate
    have hfile :
        fill template [("name", u.simpleName), ("module", p.naming.moduleName u.simpleName)] =
        fileName p u := by rw [fileName, htemplate, Option.getD_some]
    cases h
    rw [hfile]
    split
    · rename_i hempty
      simp [Path.append, String.isEmpty_iff.mp hempty]
    · rfl

end Names

/-! ### Files of a report -/

/-- Where a file of a report comes from, and its directory and name. -/
inductive Origin (p : Profile) (units : List SourceUnit) (o : OutputUnit) : String × String → Prop
  | unit {u : SourceUnit} (hu : u ∈ units) (hsource : o.source = u.unitName)
      (hkind : u.kind ≠ .support) :
    Origin p units o (Path.directory u.unitName, fileName p u)
  | profile {name : String} (hname : name ∈ p.supportFiles.keys) : Origin p units o ("", name)
  | marker {dir name : String} (hname : p.packageMarker = some name) : Origin p units o (dir, name)

/-- Two files have the same directory and the same name. -/
def SamePlace (place place' : String × String) : Prop :=
  Path.components place.1 = Path.components place'.1 ∧ place.2 = place'.2

section Origins

variable {p : Profile} {m : Model} {units : List SourceUnit} {o : OutputUnit}

theorem isName_of_mem_supportFiles (hp : p ∈ builtins) {name : String}
    (h : name ∈ p.supportFiles.keys) :
    Path.IsName name := by
  have hnames : ∀ name ∈ p.supportFiles.keys, Path.IsName name := by
    unfold Path.IsName Path.IsStep
    rcases List.mem_pair.mp hp with rfl | rfl <;> decide +kernel
  exact hnames name h

theorem isName_of_origin (hp : p ∈ builtins) (hplain : ∀ u ∈ units, PlainStem p u)
    {place : String × String} (h : Origin p units o place) : Path.IsName place.2 := by
  cases h with
  | unit hu _ hkind => exact isName_fileName hp (hplain _ hu).1 hkind
  | profile hname => exact isName_of_mem_supportFiles hp hname
  | marker hname =>
    have hmarker : ∀ name ∈ p.packageMarker, Path.IsName name := by
      unfold Path.IsName Path.IsStep
      rcases List.mem_pair.mp hp with rfl | rfl <;> decide +kernel
    exact hmarker _ hname

theorem Origin.mono {units' : List SourceUnit} {place : String × String}
    (h : Origin p units o place) (hsub : units ⊆ units') : Origin p units' o place := by
  cases h with
  | unit hu hsource hkind => exact .unit (hsub hu) hsource hkind
  | profile hname => exact .profile hname
  | marker hname => exact .marker hname

theorem exists_origin_of_mem_supportUnits (hp : p ∈ builtins) {written : List OutputUnit}
    (h : o ∈ (supportUnits m p written).getD []) :
    ∃ place, Origin p units o place ∧ o.path = Path.append place.1 place.2 := by
  obtain ⟨f, hf, _, rfl⟩ | ⟨name, hname, d, rfl⟩ := mem_supportUnits h
  · have hname : f.1 ∈ p.supportFiles.keys := List.mem_map_of_mem hf
    refine ⟨_, .profile hname, ?_⟩
    simp [supportUnit, Path.append, (isName_of_mem_supportFiles hp hname).isAbsolute]
  · exact ⟨(d, name), .marker hname, rfl⟩

theorem exists_origin_of_converted (hp : p ∈ builtins) {failed : List String}
    {strategy : Option DelegateStrategy} {kept : Result}
    (hdistinct : (units.map SourceUnit.unitName).Nodup) (hplain : ∀ u ∈ units, PlainStem p u)
    (hlink : Linking.link units failed = .ok m) (h : converted m p strategy = .ok kept)
    (ho : o ∈ kept.units) :
    ∃ place, Origin p units o place ∧ o.path = Path.append place.1 place.2 := by
  have hnames := (names_perm_of_link hlink).nodup_iff.mpr hdistinct
  obtain ⟨_, os, hperm, hus, hos, rfl⟩ := exists_outcomes_of_converted hnames h
  obtain ⟨_, hspread⟩ := exists_spread (importsOf os) (hos.settled hus)
  rw [hspread.units] at ho
  obtain ⟨oc, hoc, hending⟩ := mem_units_resultOf.mp (List.mem_filter.mp ho).1
  have hrun := hending ▸ hos.rendered oc hoc
  have hmem : oc.unit ∈ m.units := hperm.mem_iff.mp (hos.units ▸ List.mem_map_of_mem hoc)
  obtain ⟨-, -, rfl⟩ := Linking.link_eq_ok_iff.mp hlink
  -- Linking changes nothing that the path of a unit depends on.
  obtain ⟨u, hu, hlinked⟩ := List.mem_map.mp hmem
  have hu : u ∈ units := mem_sortBy.mp hu
  obtain ⟨path, hpath, ⟨r, herror, -⟩ | ⟨_, -, ⟨r, herror, -⟩ | ⟨_, -, hfile⟩⟩⟩ :=
    renderUnit_cases hrun
  · cases herror
  · cases herror
  · obtain rfl := Except.ok.inj hfile
    have hpath : outputPath p u = .ok path := by
      rw [← hpath, ← hlinked]
      rfl
    obtain ⟨hkind, hplace⟩ := path_of_outputPath hp hpath
    refine ⟨_, .unit hu ?_ hkind, hplace (hplain u hu).1⟩
    rw [← hlinked]
    rfl

theorem exists_origin (hp : p ∈ builtins) {strategy : DelegateStrategy} {intake : Intake}
    {report : Report} (hdistinct : (intake.units.map SourceUnit.unitName).Nodup)
    (hplain : ∀ u ∈ intake.units, PlainStem p u) (h : reportOf p strategy intake = .ok report)
    (ho : o ∈ report.units) :
    ∃ place, Origin p intake.units o place ∧ o.path = Path.append place.1 place.2 := by
  rcases reportOf_cases h with ⟨-, _, rfl⟩ | ⟨m, _, -, hlink, hresult, rfl⟩
  · cases ho
  · obtain ⟨kept, hkept, rfl⟩ := exists_converted hresult
    have hmem : o ∈ kept.units ∨ o ∈ (supportUnits m p kept.units).getD [] := by
      unfold renderedReport Result.withSupport at ho
      repeat' split at ho
      all_goals simp_all
    rcases hmem with hmem | hmem
    · exact exists_origin_of_converted hp hdistinct hplain hlink hkept hmem
    · exact exists_origin_of_mem_supportUnits hp hmem

end Origins

/-- If all paths stay in the output directory, writing is refused for several files at one place
exactly if two paths have one normal form. -/
theorem duplicates_iff {files : List (String × String)}
    (hinside : ∀ f ∈ files, Files.StaysInside f.1) (t : Files.FileTree) (out : List String) :
    (∃ paths, (Files.writeUnits t out files).1 = .error (.duplicates paths)) ↔
      ¬(files.map fun f => Path.normalize f.1).Nodup := by
  unfold Files.writeUnits
  rw [Files.mapM_checkPath_eq_ok_iff.mpr ⟨hinside, rfl⟩, ← Files.repeated_eq_nil_iff]
  dsimp only
  cases hrepeated : Files.repeated (files.map fun f => Path.normalize f.1) with
  | nil =>
    dsimp only
    refine iff_of_false ?_ fun h => h rfl
    rintro ⟨paths, hwrite⟩
    split at hwrite <;> cases hwrite
  | cons => exact ⟨fun _ => nofun, fun _ => ⟨_, rfl⟩⟩

/-- **When a report cannot be written.** A file has a place, by where it comes from. If all paths
stay in the output directory, writing is refused for several files at one place exactly if two have
the same. Files of classes have one name exactly if the target does not tell the classes apart, and
none has that of a file of the profile. -/
theorem writing_refused_iff_places_shared {p : Profile} (hp : p ∈ builtins)
    {strategy : Option DelegateStrategy} {intake : Intake}
    (hdistinct : (intake.units.map SourceUnit.unitName).Nodup)
    (hplain : ∀ u ∈ intake.units, PlainStem p u) {report : Report}
    (h : finish p strategy intake = .ok report)
    (hinside : ∀ o ∈ report.units, Files.StaysInside o.path) :
    (∃ place : OutputUnit → String × String,
      (∀ o ∈ report.units, Origin p intake.units o (place o) ∧
        o.path = Path.append (place o).1 (place o).2) ∧
      ∀ t out, (∃ paths, (Files.writeUnits t out (report.units.map fun o => (o.path, o.text))).1 =
          .error (.duplicates paths)) ↔
        ¬report.units.Pairwise fun o o' => ¬SamePlace (place o) (place o')) ∧
    ∀ u ∈ intake.units, u.kind ≠ .support → fileName p u ∉ p.supportFiles.keys ∧
      ∀ v ∈ intake.units, v.kind ≠ .support → (fileName p u = fileName p v ↔ NamedAlike p u v) := by
  have hperm : intake.sorted.units.Perm intake.units := sortBy_perm _ intake.units
  have hplain' : ∀ u ∈ intake.sorted.units, PlainStem p u :=
    fun u hu => hplain u (hperm.mem_iff.mp hu)
  have horigin : ∀ o ∈ report.units, ∃ place, Origin p intake.sorted.units o place ∧
      o.path = Path.append place.1 place.2 := fun o ho =>
    exists_origin hp ((hperm.map _).nodup_iff.mpr hdistinct) hplain' h ho
  choose! place hplace hpath using horigin
  refine ⟨⟨place, fun o ho => ?_, fun t out => ?_⟩, fun u hu hkind =>
    ⟨fileName_not_mem_supportFiles hp (hplain u hu) hkind, fun v hv hvkind =>
      fileName_eq_iff hp (hplain u hu) (hplain v hv) hkind hvkind⟩⟩
  · exact ⟨(hplace o ho).mono hperm.subset, hpath o ho⟩
  · have hrelative : ∀ o ∈ report.units, Path.leadingSlashes (Path.append (place o).1 (place o).2) =
        0 :=
      fun o ho => hpath o ho ▸ (hinside o ho).leadingSlashes
    rw [duplicates_iff (by simpa using hinside), List.map_map, List.Nodup, List.pairwise_map,
      not_iff_not]
    refine List.Pairwise.iff_of_mem fun {o o'} ho ho' => not_congr ?_
    rw [Function.comp_apply, Function.comp_apply, hpath o ho, hpath o' ho']
    exact Path.normalize_append_eq_iff (isName_of_origin hp hplain' (hplace o ho))
      (isName_of_origin hp hplain' (hplace o' ho')) (hrelative o ho) (hrelative o' ho')

/-- Two sources of one directory with tests of one name. -/
def twinTests : Intake :=
  { units := [flowTest "a/A.java" "FlowTest" [], flowTest "a/B.java" "FlowTest" []] }

theorem exists_report_twinTests : ∃ report, finish playwrightTs none twinTests = .ok report ∧
    report.status = .success ∧ (∀ o ∈ report.units, Files.StaysInside o.path) ∧
    ∀ t out, ∃ paths, (Files.writeUnits t out (report.units.map fun o => (o.path, o.text))).1 =
      .error (.duplicates paths) := by
  have hrun : (finish playwrightTs none twinTests).map (fun report =>
      (report.status, report.units.map OutputUnit.path)) = .ok (.success, ["a/FlowTest.spec.ts",
        "a/FlowTest.spec.ts", "README.md", "package.json", "playwright.config.ts",
          "tsconfig.json"]) := by
    decide +kernel
  obtain ⟨report, hreport, hresult⟩ := exists_of_map_eq_ok hrun
  obtain ⟨hstatus, hpaths⟩ := Prod.mk.inj hresult
  have hinside : ∀ o ∈ report.units, Files.StaysInside o.path := by
    rw [← List.forall_mem_map (f := OutputUnit.path), hpaths]
    simp only [List.forall_mem_cons]
    exact ⟨rfl, rfl, rfl, rfl, rfl, rfl, nofun⟩
  have hshared : ¬((report.units.map OutputUnit.path).map Path.normalize).Nodup := by
    rw [hpaths]
    decide +kernel
  refine ⟨report, hreport, hstatus, hinside, fun t out => ?_⟩
  rw [duplicates_iff (by simpa using hinside)]
  simpa only [List.map_map, Function.comp_def] using hshared

theorem writing_refused_iff_places_shared_twinTests : playwrightTs ∈ builtins ∧
    (∀ u ∈ twinTests.units, PlainStem playwrightTs u) ∧
    ∃ report, finish playwrightTs none twinTests = .ok report ∧
      (∀ o ∈ report.units, Files.StaysInside o.path) ∧ ∃ place : OutputUnit → String × String,
        (∀ o ∈ report.units, Origin playwrightTs twinTests.units o (place o)) ∧
        ¬report.units.Pairwise fun o o' => ¬SamePlace (place o) (place o') := by
  have hp : playwrightTs ∈ builtins := List.mem_cons_of_mem _ List.mem_cons_self
  have hplain : ∀ u ∈ twinTests.units, PlainStem playwrightTs u := by decide +kernel
  obtain ⟨report, hreport, -, hinside, hrefused⟩ := exists_report_twinTests
  obtain ⟨⟨place, horigin, hiff⟩, -⟩ :=
    writing_refused_iff_places_shared hp (by decide) hplain hreport hinside
  exact ⟨hp, hplain, report, hreport, hinside, place, fun o ho => (horigin o ho).1,
    (hiff {} []).mp (hrefused {} [])⟩

/-- **A successful run that cannot be written.** Two tests get one file. -/
theorem success_not_writable : ∃ report, finish playwrightTs none twinTests = .ok report ∧
    report.status = .success ∧ ∀ t out, ∃ paths,
      (Files.writeUnits t out (report.units.map fun o => (o.path, o.text))).1 =
        .error (.duplicates paths) := by
  obtain ⟨report, hreport, hstatus, -, hrefused⟩ := exists_report_twinTests
  exact ⟨report, hreport, hstatus, hrefused⟩

end TestMigration.Conversion
