import TestMigration.Proofs.Linking.Homonyms
import TestMigration.Proofs.Rendering.Effects
/-!
# Two readings of a type name

Linking and rendering both turn the name of a type into a unit, each in its own way. Linking takes a
qualified name as it is, then the unit itself, the imports, the package, and at last the only unit
of that name. Rendering cuts the name down to its last part, and of the units that bear it takes the
first in the package it looks from, or else the first of all, in the order of the unit names
(`Foremost`).

So the page object that a body creates is the one its calls were linked against exactly if the unit
that linking found is the foremost of those that bear the short name. That is so where linking went
through the whole project and found one unit only. The two part at an import of a class whose name
exists elsewhere.
-/

namespace TestMigration.Rendering

open TestMigration.Action Linking Text

/-- The name by which rendering looks for a type: without arguments and qualification. -/
def shortName (typeName : String) : String := afterLast '.' (beforeFirst '<' typeName)

/-- A unit is the first choice for a type name, seen from another unit. The units of that name
before it are in other packages than the viewer, whose package it shares; and none after it has that
package unless it has it too. -/
def Foremost (units : List SourceUnit) (typeName : String) (near w : SourceUnit) : Prop :=
  ∃ before after, units = before ++ w :: after ∧ w.simpleName = shortName typeName ∧
    (∀ x ∈ before, x.simpleName = shortName typeName → w.package = near.package ∧
      x.package ≠ near.package) ∧
    ∀ x ∈ after, x.simpleName = shortName typeName → x.package = near.package →
      w.package = near.package

variable {typeName : String} {near v : SourceUnit} {p : Project}

theorem foremost_iff {units : List SourceUnit} {w : SourceUnit} : Foremost units typeName near w ↔
      ((units.filter (·.simpleName == shortName typeName)).find? (·.package == near.package)).or
        (units.filter (·.simpleName == shortName typeName)).head? = some w := by
  rw [List.find?_filter, List.head?_filter, Option.or_eq_some_iff, List.find?_eq_some_iff_append,
    List.find?_eq_none, List.find?_eq_some_iff_append]
  simp only [beq_iff_eq, Bool.not_eq_true', decide_eq_true_eq, decide_eq_false_iff_not,
    beq_eq_false_iff_ne, not_and]
  constructor
  · rintro ⟨before, after, hunits, hname, hbefore, hafter⟩
    by_cases hw : w.package = near.package
    · exact .inl ⟨⟨hname, hw⟩, before, after, hunits, fun x hx hxname => (hbefore x hx hxname).2⟩
    · refine .inr ⟨fun x hx hxname hxnear => ?_, hname, before, after, hunits,
        fun x hx hxname => ?_⟩
      · rw [hunits] at hx
        rcases List.mem_append.mp hx with hx | hx
        · exact hw (hbefore x hx hxname).1
        · rcases List.mem_cons.mp hx with rfl | hx
          · exact hw hxnear
          · exact hw (hafter x hx hxname hxnear)
      · exact hw (hbefore x hx hxname).1
  · rintro (⟨⟨hname, hw⟩, before, after, hunits, hbefore⟩ |
      ⟨hnone, hname, before, after, hunits, hbefore⟩)
    · refine ⟨before, after, hunits, hname, fun x hx hxname => ⟨hw, ?_⟩, fun _ _ _ _ => hw⟩
      exact hbefore x hx hxname
    · refine ⟨before, after, hunits, hname, fun x hx hxname => absurd hxname (hbefore x hx), ?_⟩
      intro x hx hxname hxnear
      exact absurd hxnear (hnone x (by simp [hunits, hx]) hxname)

/-- No other unit of a package bears the name of a unit of it. -/
def OnlyInPackage (units : List SourceUnit) (v : SourceUnit) : Prop :=
  ∀ x ∈ units, x.simpleName = v.simpleName → x.package = v.package → x = v

/-- A unit of the viewer's package goes before all others of its name. One of another package is the
foremost only where that package has none of the name, and where it is the first of them. -/
theorem foremost_iff_of_onlyInPackage {units : List SourceUnit} (hv : v ∈ units)
    (hname : v.simpleName = shortName typeName) (honly : OnlyInPackage units v) :
    Foremost units typeName near v ↔ v.package = near.package ∨
      units.find? (·.simpleName == v.simpleName) = some v ∧
        ∀ x ∈ units, x.simpleName = v.simpleName → x.package ≠ near.package := by
  rw [foremost_iff, ← hname, Option.or_eq_some_iff, List.head?_filter, List.find?_eq_none, and_comm]
  simp only [List.mem_filter, beq_iff_eq, and_imp]
  refine or_congr_left ⟨fun h => by simpa using List.find?_some h, fun hpackage => ?_⟩
  cases hw : (units.filter (·.simpleName == v.simpleName)).find? (·.package == near.package) with
  | none => exact absurd hpackage (by simpa [hv] using List.find?_eq_none.mp hw v)
  | some w =>
    obtain ⟨hmem, hsame⟩ := List.mem_filter.mp (List.mem_of_find?_eq_some hw)
    have hpackagew : w.package = near.package := by simpa using List.find?_some hw
    rw [honly w hmem (by simpa using hsame) (hpackagew.trans hpackage.symm)]

/-- **Rendering takes the foremost unit**, with the units in the order of the project. -/
theorem unitForType_eq_some_iff {demoted : String → Bool} {m : Model}
    (hm : m.units = p.units.map (demoteUnit demoted)) : unitForType m typeName near = some v ↔
      ∃ w, Foremost p.units typeName near w ∧ demoteUnit demoted w = v := by
  have hpick : unitForType m typeName near = Option.map (demoteUnit demoted)
      (((p.units.filter (·.simpleName == shortName typeName)).find? (·.package == near.package)).or
        (p.units.filter (·.simpleName == shortName typeName)).head?) := by
    simp only [unitForType, hm, List.filter_map, List.find?_map, List.head?_map, ← Option.map_or]
    rfl
  rw [hpick, Option.map_eq_some_iff]
  simp only [foremost_iff]

theorem run_pageObjectFor (typeName : String) (near : SourceUnit) (env : Env) (s : State) :
    (pageObjectFor typeName near).run env s =
      (.ok ((unitForType env.model typeName near).filter (·.kind == .pageObject)), s) := rfl

theorem shortName_eq_of_not_mem (h : '<' ∉ typeName.toList) :
    shortName typeName = afterLast '.' typeName := by
  have hall : typeName.toList.takeWhile (· != '<') = typeName.toList := by
    refine List.takeWhile_eq_self_iff.mpr fun c hc => ?_
    simpa using ne_of_mem_of_not_mem hc h
  rw [shortName, beforeFirst, hall, String.ofList_toList]

/-- A unit that linking found in the whole project is the only one of the name. -/
theorem foremost_of_near?_eq_none
    (hnear : p.near? typeName near = none) (hfound : p.resolveType typeName near = .found v)
    (hplain : '<' ∉ typeName.toList) : Foremost p.units typeName near v := by
  rw [Project.resolveType, hnear] at hfound
  split at hfound
  · rename_i heq
    cases heq
  · split at hfound
    · cases hfound
    · rename_i heq
      cases hfound
      rw [foremost_iff, shortName_eq_of_not_mem hplain, heq]
      by_cases hpackage : v.package = near.package <;> simp [hpackage]
    · cases hfound

/-- **Rendering and linking read a type name alike exactly if linking found the foremost unit.** The
same decides which page object a body creates, annotates or imports. For a plain name that linking
looked for in the whole project they always agree. A unit that is the only one of its name in its
package was found alike if that is the package of the viewer; an import or a qualified name that
leads to another package is read alike only if it leads to the first unit of the name, and no unit
of the name is at hand. -/
theorem unitForType_eq_resolved_iff {units : List SourceUnit} {failed : List String} {m : Model}
    (hlink : link units failed = .ok m) {typeName : String} {u v : SourceUnit}
    (hfound : (Project.ofUnits units).resolveType typeName u = .found v) :
    ∃ demoted : String → Bool, m.units = (Project.ofUnits units).units.map (demoteUnit demoted) ∧
      (unitForType m typeName (demoteUnit demoted u) = some (demoteUnit demoted v) ↔
        ∃ w, Foremost (Project.ofUnits units).units typeName u w ∧
          demoteUnit demoted w = demoteUnit demoted v) ∧
      (∀ env s, env.model = m → ((pageObjectFor typeName (demoteUnit demoted u)).run env s =
            (.ok (some (demoteUnit demoted v)), s) ↔
          v.kind = .pageObject ∧ ∃ w, Foremost (Project.ofUnits units).units typeName u w ∧
            demoteUnit demoted w = demoteUnit demoted v)) ∧
      ((Project.ofUnits units).near? typeName u = none → '<' ∉ typeName.toList →
        unitForType m typeName (demoteUnit demoted u) = some (demoteUnit demoted v)) ∧
      (u ∈ (Project.ofUnits units).units → v.simpleName = shortName typeName →
        OnlyInPackage (Project.ofUnits units).units v →
        (unitForType m typeName (demoteUnit demoted u) = some (demoteUnit demoted v) ↔
          v.package = u.package ∨
            (Project.ofUnits units).units.find? (·.simpleName == v.simpleName) = some v ∧
              ∀ x ∈ (Project.ofUnits units).units,
                x.simpleName = v.simpleName → x.package ≠ u.package)) := by
  obtain ⟨-, -, rfl⟩ := link_eq_ok_iff.mp hlink
  have hunits : (linkedModel units failed).units = (Project.ofUnits units).units.map
      (demoteUnit (linksOf units failed).demoted.contains) := rfl
  refine ⟨(linksOf units failed).demoted.contains, hunits, unitForType_eq_some_iff hunits, ?_, ?_,
    ?_⟩
  · rintro env s hm
    rw [run_pageObjectFor, hm, Prod.mk.injEq, and_iff_left rfl, Except.ok.injEq,
      Option.filter_eq_some_iff, unitForType_eq_some_iff hunits, and_comm]
    exact and_congr_left fun _ => beq_iff_eq
  · intro hnear hplain
    have hforemost := foremost_of_near?_eq_none hnear hfound hplain
    exact (unitForType_eq_some_iff hunits).mpr ⟨v, hforemost, rfl⟩
  · intro hu hname honly
    have hv := Project.mem_of_resolveType hu hfound
    rw [← foremost_iff_of_onlyInPackage hv hname honly]
    refine (unitForType_eq_some_iff hunits).trans ⟨?_, fun h => ⟨v, h, rfl⟩⟩
    rintro ⟨w, hforemost, hsame⟩
    have hw := hforemost
    obtain ⟨_, _, hsplit, hshort, -⟩ := hw
    have hpackage : w.package = v.package := by
      simpa only [demoteUnit] using congrArg SourceUnit.package hsame
    rwa [← honly w (by simp [hsplit]) (hshort.trans hname.symm) hpackage]

/-- Two packages with a page of one name, and a unit of a third that imports the second. -/
def importedHome : List SourceUnit := homesAndImports ["b.Home"]

/-- An imported page is not the foremost one of its name. -/
theorem unitForType_eq_resolved_iff_importedHome :
    link importedHome [] = .ok (linkedModel importedHome []) ∧
      ∃ u v, (Project.ofUnits importedHome).resolveType "Home" u = .found v ∧
        ∃ demoted : String → Bool,
          ¬∃ w, Foremost (Project.ofUnits importedHome).units "Home" u w ∧
            demoteUnit demoted w = demoteUnit demoted v := by
  have hlink : link importedHome [] = .ok (linkedModel importedHome []) :=
    link_eq_ok_iff.mpr ⟨rfl, rfl, rfl⟩
  have hfound : (Project.ofUnits importedHome).resolveType "Home"
      { flow "t/Flow.java" "t" [] with imports := ["b.Home"] } =
        .found (page "b/Home.java" "b" "Home" "" [pageMethod "open" [] []]) := rfl
  obtain ⟨demoted, -, hiff, -⟩ := unitForType_eq_resolved_iff hlink hfound
  refine ⟨hlink, _, _, hfound, demoted, fun hforemost => ?_⟩
  have hname : (unitForType (linkedModel importedHome []) "Home" (demoteUnit demoted
      { flow "t/Flow.java" "t" [] with imports := ["b.Home"] })).map SourceUnit.unitName =
        some "a/Home.java" := rfl
  rw [hiff.mpr hforemost] at hname
  exact absurd hname (by simp [demoteUnit, page])

/-- A call is linked against an imported page, while rendering creates that of another package. -/
theorem foremost_page_not_imported : link importedHome [] = .ok (linkedModel importedHome []) ∧
      ∃ u ∈ importedHome, ∃ v w, (Project.ofUnits importedHome).resolveType "Home" u = .found v ∧
        unitForType (linkedModel importedHome []) "Home" u = some w ∧
        v.unitName = "b/Home.java" ∧ w.unitName = "a/Home.java" := by
  refine ⟨link_eq_ok_iff.mpr ⟨rfl, rfl, rfl⟩, _, List.mem_cons_of_mem _ (List.mem_cons_of_mem _
    (List.mem_singleton.mpr rfl)), _, _, rfl, rfl, rfl, rfl⟩

end TestMigration.Rendering
