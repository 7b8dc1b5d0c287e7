import Mathlib.Data.List.TakeWhile
import TestMigration.Proofs.Linking.Resolution
import TestMigration.Proofs.Text.Placement
/-!
# Names that several units bear

A type name is read in steps: as a qualified name, through the imports of the unit that uses it, in
the package of that unit, and at last as the only unit of that simple name in the whole project. The
first steps all end at a qualified name (`Denotes`), looked up in a table that holds one unit for
each name, the last one in the order of the unit names (`Project.last_of_qualified?`). So a shared
name is an issue only in the last step.

An import says what a name means only if the project has a unit of that name; otherwise the name is
read as if the import were not there (`exact_names_resolved`). The imports are gone through in one
pass, whether they are of a class or of a package: the import of a class does not count behind that
of a package with a class of the same name (`Preempted`), although it is the more exact one.
-/

namespace TestMigration.Linking

open TestMigration.Action Text

/-- An import of one class, which is known by a simple name. -/
structure ImportsClass (simple imported : String) : Prop where
  plain : startsWith "static " imported = false
  named : endsWith ("." ++ simple) imported = true
  single : endsWith ".*" imported = false

/-- The first of some imports that makes a simple name mean a unit makes it mean another one than
that of the given qualified name. -/
def Preempted (units : List SourceUnit) (simple imported : String) (before : List String) : Prop :=
  ∃ front i back, before = front ++ i :: back ∧
    (∀ j ∈ front, ∀ w ∈ units, ¬Imports simple j w.qualifiedName) ∧
      ∃ w ∈ units, Imports simple i w.qualifiedName ∧ w.qualifiedName ≠ imported

/-! ### Simple names -/

theorem occursIn_dot_eq_false {name : String} (h : '.' ∉ name.toList) :
    occursIn "." name = false := by
  refine Bool.eq_false_iff.mpr fun hdot => h ?_
  exact (occursIn_iff.mp hdot).subset (List.mem_singleton_self '.')

theorem not_mem_afterLast (name : String) : '.' ∉ (afterLast '.' name).toList := by
  simp only [afterLast, String.toList_ofList, List.mem_reverse]
  intro hmem
  simpa using List.mem_takeWhile_imp hmem

theorem afterLast_of_not_mem {name : String} (h : '.' ∉ name.toList) :
    afterLast '.' name = name := by
  have hall : name.toList.reverse.takeWhile (· != '.') = name.toList.reverse := by
    refine List.takeWhile_eq_self_iff.mpr fun c hc => ?_
    simpa using ne_of_mem_of_not_mem (List.mem_reverse.mp hc) h
  rw [afterLast, hall, List.reverse_reverse, String.ofList_toList]

namespace Project

variable {p : Project} {u v : SourceUnit} {simple imported name typeName : String}

/-! ### Qualified names -/

theorem qualified?_eq_none_iff :
    p.qualified? name = none ↔ ∀ v ∈ p.units, v.qualifiedName ≠ name := by
  simp [qualified?]

theorem exists_qualified? (hv : v ∈ p.units) (h : v.qualifiedName = name) :
    ∃ w, p.qualified? name = some w :=
  Option.ne_none_iff_exists'.mp fun hnone => qualified?_eq_none_iff.mp hnone v hv h

/-- **Of several units with one qualified name the last one counts.** -/
theorem last_of_qualified? {units : List SourceUnit}
    (h : (ofUnits units).qualified? name = some v) :
    v ∈ units ∧ v.qualifiedName = name ∧ ∀ w ∈ units, w.qualifiedName = name →
      w.unitName ≤ v.unitName := by
  refine ⟨mem_sortBy.mp (mem_of_qualified? h), name_of_qualified? h, fun w hw hname => ?_⟩
  have hsorted := pairwise_sortBy_key SourceUnit.unitName units
  obtain ⟨-, later, earlier, hunits, hlater⟩ := List.find?_eq_some_iff_append.mp h
  have horder : (ofUnits units).units = earlier.reverse ++ v :: later.reverse := by
    simpa using congrArg List.reverse hunits
  have hw' : w ∈ (ofUnits units).units := mem_sortBy.mpr hw
  change (ofUnits units).units.Pairwise _ at hsorted
  rw [horder] at hsorted hw'
  rcases List.mem_append.mp hw' with hmem | hmem
  · exact (List.pairwise_append.mp hsorted).2.2 w hmem v (List.mem_cons_self)
  · rcases List.mem_cons.mp hmem with rfl | hmem
    · exact String.le_refl _
    · exact absurd hname (by simpa using hlater w (List.mem_reverse.mp hmem))

/-! ### Imports -/

theorem exists_imported? (h : Imports simple imported name) (hv : v ∈ p.units)
    (hname : v.qualifiedName = name) : ∃ w, p.imported? simple imported = some w := by
  obtain ⟨hplain, ⟨rfl, hends⟩ | ⟨package, rfl, rfl⟩⟩ := h
  · obtain ⟨w, hw⟩ := exists_qualified? hv hname
    exact ⟨w, by simp [imported?, hplain, hends, hw]⟩
  · have hends : endsWith ".*" (package ++ ".*") = true :=
      List.isSuffixOf_iff_suffix.mpr ⟨package.toList, by simp⟩
    have hlength : (package ++ ".*").length - 2 = package.toList.length := by
      rw [String.length_append]
      rfl
    have hpackage : String.ofList ((package ++ ".*").toList.take ((package ++ ".*").length - 2)) =
        package := by
      rw [hlength, String.toList_append, List.take_left, String.ofList_toList]
    obtain ⟨w, hw⟩ := exists_qualified? hv hname
    cases hexact : if endsWith ("." ++ simple) (package ++ ".*") then
        p.qualified? (package ++ ".*") else none with
    | some w' => exact ⟨w', by simp [imported?, hplain, hexact]⟩
    | none =>
      refine ⟨w, ?_⟩
      simp only [imported?, hplain, hexact, hends, hpackage, hw]
      rfl

/-- An import makes a simple name mean one qualified name. -/
theorem imports_unique {name' : String} (hdot : '.' ∉ simple.toList)
    (h : Imports simple imported name) (h' : Imports simple imported name') : name = name' := by
  have hstar : ∀ {package : String}, endsWith ("." ++ simple) (package ++ ".*") = true →
      package ++ ".*" = package ++ "." ++ simple := by
    intro package hends
    have hsuffix : '.' :: simple.toList <:+ package.toList ++ ['.', '*'] := by
      simpa using List.isSuffixOf_iff_suffix.mp hends
    have hsimple : simple.toList = ['*'] := by
      rcases List.suffix_or_suffix_of_suffix hsuffix (List.suffix_append _ _) with hs | hs
      · rcases List.suffix_cons_iff.mp hs with heq | hs
        · exact (List.cons.inj heq).2
        · exact absurd hs (by simp [List.suffix_cons_iff])
      · rcases List.suffix_cons_iff.mp hs with heq | hs
        · exact (List.cons.inj heq).2.symm
        · exact absurd (hs.subset List.mem_cons_self) hdot
    rw [← String.toList_inj]
    simp [hsimple]
  obtain ⟨-, ⟨rfl, hends⟩ | ⟨package, rfl, rfl⟩⟩ := h
  · obtain ⟨-, ⟨rfl, -⟩ | ⟨package, rfl, rfl⟩⟩ := h'
    · rfl
    · exact hstar hends
  · obtain ⟨-, ⟨rfl, hends⟩ | ⟨package', heq, rfl⟩⟩ := h'
    · exact (hstar hends).symm
    · have hsame : package.toList = package'.toList := by
        simpa using congrArg String.toList heq
      rw [String.toList_inj.mp hsame]

theorem imported?_eq_none (h : ImportsClass simple imported)
    (hnone : ∀ v ∈ p.units, v.qualifiedName ≠ imported) : p.imported? simple imported = none := by
  simp [imported?, h.single, qualified?_eq_none_iff.mpr hnone]

/-! ### Steps of reading a name -/

theorem exists_near? (h : Denotes u typeName v.qualifiedName) (hv : v ∈ p.units) :
    ∃ w, p.near? typeName u = some w := by
  refine Option.ne_none_iff_exists'.mp fun hnone => ?_
  rw [near?] at hnone
  simp only [Option.orElse_eq_orElse, Option.orElse_eq_or, Option.or_eq_none_iff] at hnone
  obtain ⟨hfull, -, himports, hpackage⟩ := hnone
  generalize hname : v.qualifiedName = name at h
  cases h with
  | qualified hdot =>
    obtain ⟨w, hw⟩ := exists_qualified? hv hname
    simp [hdot, hw] at hfull
  | imported hmem hi =>
    obtain ⟨w, hw⟩ := exists_imported? hi hv hname
    rw [List.findSome?_eq_none_iff.mp himports _ hmem] at hw
    cases hw
  | package hne =>
    obtain ⟨w, hw⟩ := exists_qualified? hv hname
    simp [hne, hw] at hpackage

theorem resolveType_of_near? (h : p.near? typeName u = some v) :
    p.resolveType typeName u = .found v := by simp [resolveType, h]

/-- A plain name other than that of the unit is first looked for in the imports. -/
theorem near?_of_simple (hdot : '.' ∉ simple.toList) (hown : simple ≠ u.simpleName) :
    p.near? simple u = ((u.imports.findSome? (p.imported? simple)).or
      (if u.package == "" then none else p.qualified? (u.package ++ "." ++ simple))) := by
  simp [near?, occursIn_dot_eq_false hdot, afterLast_of_not_mem hdot, hown]

theorem preempted_cons {before : List String} {i : String} :
    Preempted p.units simple imported (i :: before) ↔
    (∃ w ∈ p.units, Imports simple i w.qualifiedName ∧ w.qualifiedName ≠ imported) ∨
      (∀ w ∈ p.units, ¬Imports simple i w.qualifiedName) ∧
        Preempted p.units simple imported before := by
  constructor
  · rintro ⟨_ | ⟨j, front⟩, k, back, hsplit, hfront, hk⟩
    · cases hsplit
      exact .inl hk
    · cases hsplit
      rw [List.forall_mem_cons] at hfront
      exact .inr ⟨hfront.1, front, k, back, rfl, hfront.2, hk⟩
  · rintro (hi | ⟨hi, front, k, back, rfl, hfront, hk⟩)
    · exact ⟨[], i, before, rfl, by simp, hi⟩
    · exact ⟨i :: front, k, back, rfl, List.forall_mem_cons.mpr ⟨hi, hfront⟩, hk⟩

theorem exists_findSome? {imports before after : List String}
    (himports : imports = before ++ imported :: after) (hq : p.qualified? imported = some v)
    (hclass : ImportsClass simple imported) :
    ∃ w, imports.findSome? (p.imported? simple) = some w := by
  refine Option.ne_none_iff_exists'.mp fun hnone => ?_
  have himported := List.findSome?_eq_none_iff.mp hnone imported (by simp [himports])
  simp [imported?, hclass.plain, hclass.named, hq] at himported

theorem qualified_of_findSome? {imports : List String} {w : SourceUnit}
    (h : imports.findSome? (p.imported? simple) = some w) :
    p.qualified? w.qualifiedName = some w := by
  obtain ⟨_, -, hi⟩ := List.exists_of_findSome?_eq_some h
  exact (imports_of_imported? hi).2

/-- The import of a class decides exactly if it is not preempted. -/
theorem findSome?_imported?_iff {before after : List String} (hdot : '.' ∉ simple.toList)
    (hq : p.qualified? imported = some v) (hclass : ImportsClass simple imported) :
    (before ++ imported :: after).findSome? (p.imported? simple) = some v ↔
      ¬Preempted p.units simple imported before := by
  induction before with
  | nil => simp [Preempted, imported?, hclass.plain, hclass.named, hq]
  | cons i _ ih =>
    rw [List.cons_append, List.findSome?_cons, preempted_cons]
    cases hi : p.imported? simple i with
    | none =>
      have hnone : ∀ w ∈ p.units, ¬Imports simple i w.qualifiedName := by
        intro w hw himports
        obtain ⟨_, hsome⟩ := exists_imported? himports hw rfl
        rw [hi] at hsome
        cases hsome
      have hfalse : ¬∃ w ∈ p.units, Imports simple i w.qualifiedName ∧
          w.qualifiedName ≠ imported := by
        rintro ⟨w, hw, himports, -⟩
        exact hnone w hw himports
      rw [or_iff_right hfalse, and_iff_right hnone]
      exact ih
    | some w =>
      obtain ⟨himports, hw⟩ := imports_of_imported? hi
      have hmem := mem_of_qualified? hw
      rw [or_iff_left fun h => h.1 w hmem himports, Option.some.injEq]
      constructor
      · rintro rfl ⟨w', -, himports', hne⟩
        exact hne ((imports_unique hdot himports' himports).trans (name_of_qualified? hq))
      · intro h
        have hname : w.qualifiedName = imported := by
          by_contra hne
          exact h ⟨w, hmem, himports, hne⟩
        rw [hname, hq] at hw
        exact (Option.some.inj hw).symm

end Project

/-- **Exact names.** An import of a project class says what its simple name means exactly if it is
not preempted; an import of any other class says nothing. A qualified name leads to the unit that
bears it, and otherwise is read as its last part. -/
theorem exact_names_resolved (units : List SourceUnit) (u : SourceUnit) :
    (∀ simple, '.' ∉ simple.toList → simple ≠ u.simpleName → ∀ before imported after,
      u.imports = before ++ imported :: after → ImportsClass simple imported →
      ((∃ v ∈ units, v.qualifiedName = imported) →
        ((∃ v ∈ units, v.qualifiedName = imported ∧
            (Project.ofUnits units).resolveType simple u = .found v) ↔
          ¬Preempted units simple imported before)) ∧
      ((∀ v ∈ units, v.qualifiedName ≠ imported) → (Project.ofUnits units).resolveType simple u =
          (Project.ofUnits units).resolveType simple { u with imports := before ++ after })) ∧
    ∀ typeName, occursIn "." typeName = true →
      ((∃ v ∈ units, v.qualifiedName = typeName) → ∃ v ∈ units, v.qualifiedName = typeName ∧
        (Project.ofUnits units).resolveType typeName u = .found v) ∧
      ((∀ v ∈ units, v.qualifiedName ≠ typeName) → (Project.ofUnits units).resolveType typeName u =
        (Project.ofUnits units).resolveType (afterLast '.' typeName) u) := by
  have hmem : ∀ v, v ∈ (Project.ofUnits units).units ↔ v ∈ units := fun v => mem_sortBy
  refine ⟨fun simple hdot hown before imported after himports hclass => ⟨?_, ?_⟩,
    fun typeName hdot => ⟨?_, ?_⟩⟩
  · rintro ⟨w, hw, hname⟩
    obtain ⟨v, hv⟩ := Project.exists_qualified? ((hmem w).mpr hw) hname
    have hsame : Preempted units simple imported before ↔
        Preempted (Project.ofUnits units).units simple imported before := by
      simp only [Preempted, hmem]
    rw [hsame, ← Project.findSome?_imported?_iff hdot hv hclass, ← himports]
    constructor
    · rintro ⟨x, -, hx, hfoundx⟩
      obtain ⟨y, hy⟩ := Project.exists_findSome? himports hv hclass
      rw [Project.resolveType, Project.near?_of_simple hdot hown, hy] at hfoundx
      cases hfoundx
      rw [hy, ← hv, ← hx]
      exact (Project.qualified_of_findSome? hy).symm
    · intro hfirst
      refine ⟨v, (Project.last_of_qualified? hv).1, Project.name_of_qualified? hv,
        Project.resolveType_of_near? ?_⟩
      rw [Project.near?_of_simple hdot hown, hfirst]
      rfl
  · intro hnone
    have hskip := Project.imported?_eq_none (p := Project.ofUnits units) hclass
      fun v hv => hnone v ((hmem v).mp hv)
    have hnear : (Project.ofUnits units).near? simple u =
        (Project.ofUnits units).near? simple { u with imports := before ++ after } := by
      have hother := Project.near?_of_simple (p := Project.ofUnits units)
        (u := { u with imports := before ++ after }) hdot hown
      rw [Project.near?_of_simple hdot hown, himports, hother]
      simp [hskip]
    rw [Project.resolveType, Project.resolveType, hnear]
  · rintro ⟨w, hw, hname⟩
    obtain ⟨v, hv⟩ := Project.exists_qualified? ((hmem w).mpr hw) hname
    exact ⟨v, (Project.last_of_qualified? hv).1, Project.name_of_qualified? hv,
      Project.resolveType_of_near? (by simp [Project.near?, hdot, hv])⟩
  · intro hnone
    have hq := Project.qualified?_eq_none_iff.mpr fun v hv => hnone v ((hmem v).mp hv)
    have hlast := not_mem_afterLast typeName
    have hnear : (Project.ofUnits units).near? typeName u =
        (Project.ofUnits units).near? (afterLast '.' typeName) u := by
      simp [Project.near?, hq, occursIn_dot_eq_false hlast, afterLast_of_not_mem hlast]
    rw [Project.resolveType, Project.resolveType, hnear, afterLast_of_not_mem hlast]

/-- Pages of one simple name in two packages, and a unit of a third package with imports. -/
def homesAndImports (imports : List String) : List SourceUnit :=
  [page "a/Home.java" "a" "Home" "" [pageMethod "open" [] []],
    page "b/Home.java" "b" "Home" "" [pageMethod "open" [] []],
    { flow "t/Flow.java" "t" [] with imports }]

/-- The import of a page decides, behind one that leads nowhere and before one of a package. -/
theorem exact_names_resolved_behindForeign :
    ∃ v ∈ homesAndImports ["lib.Home", "b.Home", "a.*"], v.qualifiedName = "b.Home" ∧
      (Project.ofUnits (homesAndImports ["lib.Home", "b.Home", "a.*"])).resolveType "Home"
        { flow "t/Flow.java" "t" [] with imports := ["lib.Home", "b.Home", "a.*"] } = .found v := by
  refine (((exact_names_resolved (homesAndImports ["lib.Home", "b.Home", "a.*"])
    { flow "t/Flow.java" "t" [] with imports := ["lib.Home", "b.Home", "a.*"] }).1 "Home"
      (by decide)
    (by decide) ["lib.Home"] "b.Home" ["a.*"] rfl ⟨by decide, by decide, by decide⟩).1
    ⟨page "b/Home.java" "b" "Home" "" [pageMethod "open" [] []], by simp [homesAndImports],
      rfl⟩).mpr ?_
  -- The first import is that of one class, and no unit has its name.
  rintro ⟨front, i, back, hsplit, -, w, hw, himports, -⟩
  have hi : i = "lib.Home" := List.mem_singleton.mp (hsplit ▸ by simp)
  have hplain : Imports "Home" "lib.Home" "lib.Home" := ⟨by decide, .inl ⟨rfl, by decide⟩⟩
  have hname := Project.imports_unique (by decide) (hi ▸ himports) hplain
  have hnames : ∀ w ∈ homesAndImports ["lib.Home", "b.Home", "a.*"],
      w.qualifiedName ≠ "lib.Home" := by
    decide
  exact hnames w hw hname

/-- The import of a page does not count behind that of a package with a page of that name. And a
library page that is imported, or given by its qualified name, is taken for a project page. -/
theorem class_import_preempted :
    ((∃ v ∈ homesAndImports ["a.*", "b.Home"], v.qualifiedName = "b.Home") ∧
      ImportsClass "Home" "b.Home" ∧
      (Project.ofUnits (homesAndImports ["a.*", "b.Home"])).resolveType "Home"
        { flow "t/Flow.java" "t" [] with imports := ["a.*", "b.Home"] } =
          .found (page "a/Home.java" "a" "Home" "" [pageMethod "open" [] []])) ∧
    (∀ v ∈ [page "a/Home.java" "a" "Home" "" []], v.qualifiedName ≠ "lib.Home") ∧
      ImportsClass "Home" "lib.Home" ∧
      (Project.ofUnits [page "a/Home.java" "a" "Home" "" []]).resolveType "Home"
        { flow "t/Flow.java" "t" [] with imports := ["lib.Home"] } =
          .found (page "a/Home.java" "a" "Home" "" []) ∧
      (Project.ofUnits [page "a/Home.java" "a" "Home" "" []]).resolveType "lib.Home"
        (flow "t/Flow.java" "t" []) = .found (page "a/Home.java" "a" "Home" "" []) :=
  ⟨⟨⟨_, .tail _ (.head _), rfl⟩, ⟨by decide, by decide, by decide⟩, rfl⟩, by decide,
    ⟨by decide, by decide, by decide⟩, rfl, rfl⟩

/-! ### Shared names in a project -/

/-- The type names read in a unit, with the lines they are reported for: of its superclass, and of
the targets of its calls. -/
def typeNamesOf (u : SourceUnit) : List (String × Nat) :=
  (if u.superclass == "" then [] else [(u.superclass, u.provenance.startLine)]) ++
    (unitCalls u).map fun entry => (entry.1.targetType, entry.2)

theorem issues_subset_foldl (p : Project) (failed : Table String String) (os : List Occurrence)
    (links : Links) :
    links.issues ⊆ (os.foldl (fun links o => resolveCall p failed o.unit links (o.call, o.line))
      links).issues ∧ ∀ o ∈ os, ∀ issues, o.read p failed = .faulty issues → issues ⊆
      (os.foldl (fun links o => resolveCall p failed o.unit links
        (o.call, o.line)) links).issues := by
  induction os generalizing links with
  | nil => exact ⟨List.Subset.refl _, fun o ho => absurd ho List.not_mem_nil⟩
  | cons o _ ih =>
    obtain ⟨hkept, hrest⟩ := ih (resolveCall p failed o.unit links (o.call, o.line))
    refine ⟨List.Subset.trans ?_ hkept, fun o' ho' issues hread => ?_⟩
    · rw [resolveCall_eq]
      split
      · exact List.Subset.refl _
      · exact List.Subset.refl _
      · exact List.subset_append_left _ _
    · rcases List.mem_cons.mp ho' with rfl | ho'
      · refine List.Subset.trans ?_ hkept
        rw [resolveCall_eq, show readCall p failed o'.unit o'.call o'.line =
          .faulty issues from hread]
        exact List.subset_append_right _ _
      · exact hrest o' ho' issues hread

theorem ambiguity_mem_issues {units : List SourceUnit} (failed : List String) {u : SourceUnit}
    (hu : u ∈ units) {typeName : String} {line : Nat} (hname : (typeName, line) ∈ typeNamesOf u)
    {candidates : List SourceUnit}
    (h : (Project.ofUnits units).resolveType typeName u = .ambiguous candidates) :
    Project.ambiguity typeName u line candidates ∈ (linksOf units failed).issues := by
  have hu' : u ∈ (Project.ofUnits units).units := mem_sortBy.mpr hu
  obtain ⟨hkept, hcalls⟩ := issues_subset_foldl (Project.ofUnits units) (failedNames failed)
    (occurrences (Project.ofUnits units))
    { issues := (Project.ofUnits units).superclasses.2 }
  rw [linksOf, resolveCalls_eq]
  rcases List.mem_append.mp hname with hsuper | hcall
  · refine hkept ?_
    rw [Project.superclasses_eq]
    refine List.mem_flatMap.mpr ⟨u, hu', ?_⟩
    split at hsuper
    · cases hsuper
    · rename_i hne
      cases List.mem_singleton.mp hsuper
      simp [Project.superclass?, hne, Project.typeWithIssue, h]
  · obtain ⟨⟨call, _⟩, hentry, heq⟩ := List.mem_map.mp hcall
    obtain ⟨rfl, rfl⟩ := Prod.mk.inj heq
    refine hcalls ⟨u, call, _⟩ (List.mem_flatMap.mpr ⟨u, hu', List.mem_map.mpr ⟨_, hentry, rfl⟩⟩)
      [Project.ambiguity call.targetType u _ candidates] ?_ List.mem_cons_self
    simp [Occurrence.read, readCall, h]

/-- **Homonyms are told apart by the order of the unit names.** A type name that denotes the
qualified name of some unit leads to the last such unit, without an issue, however many share it.
Only a name that denotes none is ambiguous, if several units bear it as their simple name, and then
linking fails. -/
theorem homonyms_settled_by_order {units : List SourceUnit} (failed : List String) {u : SourceUnit}
    (hu : u ∈ units) {typeName : String} {line : Nat} (hname : (typeName, line) ∈ typeNamesOf u)
    (hown : afterLast '.' typeName ≠ u.simpleName) :
    ((∃ v ∈ units, Denotes u typeName v.qualifiedName) →
      ∃ v ∈ units, Denotes u typeName v.qualifiedName ∧
        (∀ w ∈ units, w.qualifiedName = v.qualifiedName → w.unitName ≤ v.unitName) ∧
        (Project.ofUnits units).typeWithIssue typeName u line = (some v, [])) ∧
    ((∀ v ∈ units, ¬Denotes u typeName v.qualifiedName) →
      2 ≤ ((Project.ofUnits units).units.filter (·.simpleName == afterLast '.' typeName)).length →
      ∃ issues, link units failed = .error issues ∧
        Project.ambiguity typeName u line ((Project.ofUnits units).units.filter
          (·.simpleName == afterLast '.' typeName)) ∈ issues) := by
  constructor
  · rintro ⟨w, hw, hdenotes⟩
    obtain ⟨v, hv⟩ := Project.exists_near? (p := Project.ofUnits units) hdenotes (mem_sortBy.mpr hw)
    obtain ⟨hdenotes, hlast⟩ := (Project.denotes_of_near? hv).resolve_left fun h => hown h.1
    obtain ⟨hmem, -, hmax⟩ := Project.last_of_qualified? hlast
    exact ⟨v, hmem, hdenotes, hmax, by rw [Project.typeWithIssue, Project.resolveType_of_near? hv]⟩
  · intro hnone hseveral
    have hnear : (Project.ofUnits units).near? typeName u = none := by
      cases hv : (Project.ofUnits units).near? typeName u with
      | none => rfl
      | some v =>
        obtain ⟨hdenotes, hlast⟩ := (Project.denotes_of_near? hv).resolve_left fun h => hown h.1
        exact absurd hdenotes (hnone v (Project.last_of_qualified? hlast).1)
    have hambiguous : (Project.ofUnits units).resolveType typeName u = .ambiguous
        ((Project.ofUnits units).units.filter (·.simpleName == afterLast '.' typeName)) := by
      rw [Project.resolveType, hnear]
      generalize (Project.ofUnits units).units.filter _ = bearers at hseveral
      rcases bearers with _ | ⟨_, _ | ⟨_, _⟩⟩
      · simp at hseveral
      · simp at hseveral
      · rfl
    have hissue := ambiguity_mem_issues failed hu hname hambiguous
    have hissues : (linksOf units failed).issues ≠ [] := List.ne_nil_of_mem hissue
    exact ⟨_, by rw [link_eq]; simp [hissues], hissue⟩

/-- One page in two modules, and a unit of its package that opens it. -/
def twinHomes : List SourceUnit :=
  [page "m/Home.java" "p" "Home" "" [pageMethod "open" [] []],
    page "n/Home.java" "p" "Home" "" [pageMethod "open" [] []], flow "p/Flow.java" "p" []]

/-- The page of the second module is taken. -/
theorem homonyms_settled_by_order_twinHomes :
    ∃ v ∈ twinHomes, Denotes (flow "p/Flow.java" "p" []) "Home" v.qualifiedName ∧
      (∀ w ∈ twinHomes, w.qualifiedName = v.qualifiedName → w.unitName ≤ v.unitName) ∧
      (Project.ofUnits twinHomes).typeWithIssue "Home" (flow "p/Flow.java" "p" []) 4 =
        (some v, []) :=
  (homonyms_settled_by_order [] (by simp [twinHomes]) (by decide) (by decide)).1
    ⟨page "m/Home.java" "p" "Home" "" [pageMethod "open" [] []], by simp [twinHomes],
      .package (by decide)⟩

/-- Two units share a name that a call of a third denotes, and linking succeeds. -/
theorem homonyms_linked : (twinHomes.map SourceUnit.unitName).Nodup ∧
      (∃ v ∈ twinHomes, ∃ w ∈ twinHomes, v.unitName ≠ w.unitName ∧
        v.qualifiedName = w.qualifiedName ∧
        Denotes (flow "p/Flow.java" "p" []) (openCall []).targetType v.qualifiedName) ∧
      link twinHomes [] = .ok (linkedModel twinHomes []) ∧
      (linkedModel twinHomes []).resolve? (openCall []) = some ⟨"n/Home.java", "open", 0⟩ := by
  refine ⟨by decide, ⟨_, List.mem_cons_self, _, List.mem_cons_of_mem _ List.mem_cons_self,
    by decide, rfl, .package (by decide)⟩, link_eq_ok_iff.mpr ⟨rfl, rfl, rfl⟩, rfl⟩

end TestMigration.Linking
