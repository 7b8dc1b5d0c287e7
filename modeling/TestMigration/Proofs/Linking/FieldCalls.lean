import TestMigration.Proofs.Linking.Literals
import TestMigration.Proofs.Linking.Resolution
/-!
# Calls in the fields of a class

A class can have fields that hold locators, and the value of a locator may be a call. Linking goes
through bodies only: it neither looks for the methods of calls in fields, nor keeps those that leave
the project as text. A field can be all right nevertheless, since a body that uses it has a copy of
its call, with the same identity.

So the locators of a model are those of the source, and a call in a field has a method exactly if
some body has a call with its identity that stays in the project (`fieldsLinked_iff`).
-/

namespace TestMigration.Linking

open TestMigration.Action Text

/-- The values in the locators of a unit: of its fields, and of those of its page object. -/
def locatorValues (u : SourceUnit) : List Value :=
  (u.locatorFields ++ (u.pageObject.map PageObject.fields).getD []).map (·.locator.value)

/-- The calls in the locators of a unit. -/
def fieldCalls (u : SourceUnit) : List Call := (partsOf (locatorValues u)).filterMap Value.call?

/-- Whether a type name leads nowhere. -/
def TypeReading.isMissing : TypeReading → Bool
  | .missing => true
  | _ => false

theorem TypeReading.isMissing_iff {r : TypeReading} : r.isMissing = true ↔ r = .missing := by
  cases r <;> simp [isMissing]

/-- Whether an identity is that of a field's call which leaves the project. -/
def leavesProject (p : Project) (u : SourceUnit) (id : String) : Bool :=
  (fieldCalls u).any fun c => c.id == id && (p.resolveType c.targetType u).isMissing

/-- Fields are linked as bodies are: calls lead to methods, and those that leave the project are
kept as text. -/
structure FieldsLinked (p : Project) (m : Model) : Prop where
  resolved : ∀ u ∈ m.units, ∀ c ∈ fieldCalls u, ∃ key, m.resolve? c = some key
  demoted : List.Forall₂ (fun u u' =>
    locatorValues u' = demoteValues (leavesProject p u) (locatorValues u)) p.units m.units

/-- A call of a body has the identity, and its type is known. -/
def StaysInBody (p : Project) (c : Call) : Prop :=
  ∃ o ∈ occurrences p, o.call.id = c.id ∧ p.resolveType o.call.targetType o.unit ≠ .missing

theorem locatorValues_demoteUnit (demoted : String → Bool) (u : SourceUnit) :
    locatorValues (demoteUnit demoted u) = locatorValues u := by
  unfold locatorValues demoteUnit
  cases u.pageObject <;> rfl

theorem not_demoted_of_demoteValues_eq {demoted : String → Bool} {vs : List Value}
    (h : demoteValues demoted vs = vs) {c : Call} (hc : c ∈ (partsOf vs).filterMap Value.call?) :
    demoted c.id = false := by
  -- What is known of the calls of bodies is true of a body with these values.
  have hbody : ∀ ws : List Value, calls [.command "" ws ⟨"", 0, 0⟩] =
      (partsOf ws).filterMap Value.call? := by
    simp [calls, all, nested, values]
  rw [← hbody, ← h] at hc
  replace hc : c ∈ calls (demoteActions demoted [.command "" vs ⟨"", 0, 0⟩]) := by
    simpa [demoteActions, demoteAction] using hc
  obtain ⟨_, -, _, rfl⟩ := exists_of_mem_calls_demoteActions hc
  rwa [id_demoteCall]

section Links

variable {units : List SourceUnit} {failed : List String}

/-- A call has a method exactly if some body has one of its identity that stays in the project. -/
theorem exists_resolve?_iff (h : (linksOf units failed).issues = []) (c : Call) :
    (∃ key, (linkedModel units failed).resolve? c = some key) ↔
      StaysInBody (Project.ofUnits units) c := by
  have hresolves := resolves_linksOf h
  have hrow : ∀ o ∈ occurrences (Project.ofUnits units),
      (∃ key, o.read (Project.ofUnits units) (failedNames failed) = .linked key) ↔
        (Project.ofUnits units).resolveType o.call.targetType o.unit ≠ .missing := by
    intro o ho
    rw [ne_eq, ← isDemoted_iff (hresolves.faultless o ho), Occurrence.isDemoted]
    cases hread : o.read (Project.ofUnits units) (failedNames failed) with
    | linked key => simp
    | demoted => simp
    | faulty issues => exact absurd hread (hresolves.faultless o ho issues)
  constructor
  · rintro ⟨key, hkey⟩
    obtain ⟨o, ho, hid, hread⟩ := exists_of_get?_resolutions h hkey
    exact ⟨o, ho, hid, (hrow o ho).mp ⟨_, hread⟩⟩
  · rintro ⟨o, ho, hid, htype⟩
    obtain ⟨key, hread⟩ := (hrow o ho).mpr htype
    have hresolutions : (linkedModel units failed).resolutions = Table.ofPairs _ :=
      hresolves.resolutions
    rw [Model.resolve?, hresolutions, ← Option.isSome_iff_exists, Table.get?_ofPairs,
      Option.isSome_map, List.find?_isSome]
    exact ⟨(o.call.id, key), List.mem_reverse.mpr (List.mem_filterMap.mpr
      ⟨o, ho, Occurrence.row?_eq_some_iff.mpr ⟨rfl, hread⟩⟩), by simp [hid]⟩

/-- **The calls in fields are linked exactly if bodies have them too.** Linking leaves the locators
of fields alone; a call has a method exactly if some body has one of its identity that stays in the
project. So fields are linked exactly if that is so for each of their calls, and none leaves the
project. -/
theorem fieldsLinked_iff {m : Model} (h : link units failed = .ok m) :
    List.Forall₂ (fun u u' => u'.unitName = u.unitName ∧ locatorValues u' = locatorValues u)
        (Project.ofUnits units).units m.units ∧
      (∀ c, (∃ key, m.resolve? c = some key) ↔ StaysInBody (Project.ofUnits units) c) ∧
      (FieldsLinked (Project.ofUnits units) m ↔
        ∀ u ∈ (Project.ofUnits units).units, ∀ c ∈ fieldCalls u,
          (Project.ofUnits units).resolveType c.targetType u ≠ .missing ∧
            StaysInBody (Project.ofUnits units) c) := by
  obtain ⟨hissues, -, rfl⟩ := link_eq_ok_iff.mp h
  have hsame : ∀ demoted u, fieldCalls (demoteUnit demoted u) = fieldCalls u := fun demoted u => by
    rw [fieldCalls, locatorValues_demoteUnit, fieldCalls]
  refine ⟨?_, exists_resolve?_iff hissues, fun hlinked u hu c hc => ⟨fun hmissing => ?_, ?_⟩,
    fun hcalls => ⟨?_, ?_⟩⟩
  · exact List.forall₂_map_right_iff.mpr
      (List.forall₂_same.mpr fun u _ => ⟨rfl, locatorValues_demoteUnit _ u⟩)
  · have hkept := List.forall₂_same.mp (List.forall₂_map_right_iff.mp hlinked.demoted) u hu
    rw [locatorValues_demoteUnit] at hkept
    have hleaves := not_demoted_of_demoteValues_eq hkept.symm hc
    rw [leavesProject, List.any_eq_false] at hleaves
    exact hleaves c hc (by simp [TypeReading.isMissing_iff.mpr hmissing])
  · rw [← exists_resolve?_iff hissues]
    exact hlinked.resolved _ (List.mem_map_of_mem hu) c (by rwa [hsame])
  · intro u' hu' c hc
    obtain ⟨u, hu, rfl⟩ := List.mem_map.mp hu'
    rw [hsame] at hc
    exact (exists_resolve?_iff hissues c).mpr (hcalls u hu c hc).2
  · refine List.forall₂_map_right_iff.mpr (List.forall₂_same.mpr fun u hu => ?_)
    have hnone : leavesProject (Project.ofUnits units) u = fun _ => false := by
      funext id
      rw [leavesProject, List.any_eq_false]
      intro c hc hleaves
      rw [Bool.and_eq_true, TypeReading.isMissing_iff] at hleaves
      exact (hcalls u hu c hc).1 hleaves.2
    rw [locatorValues_demoteUnit, hnone, (values_of_none "" _).2]

end Links

/-! ### A page with a computed locator -/

def loginCall : Call := .mk "p/Login.java#1" "Names" "login" [] .static "" "Names.login()"

def namesModule : SourceUnit :=
  { page "p/Names.java" "p" "Names" "" [pageMethod "login" [] []] with kind := .utilityModule }

/-- A page with a field whose locator is computed by the function. -/
def loginPage (actions : List Action) : SourceUnit :=
  let methods := [pageMethod "open" [] actions]
  { page "p/Login.java" "p" "Login" "" methods with
    locatorFields :=
      [loginField], pageObject := some { name := "Login", fields := [loginField], methods } }
where
  loginField : LocatorField :=
    { name := "login", locator := { strategy := "id", value := .call loginCall }
      provenance := ⟨"p/Login.java", 3, 3⟩ }

def steppingPage (v : Value) : SourceUnit := loginPage [.navigate v ⟨"p/Login.java", 5, 5⟩]

def usedField : List SourceUnit := [steppingPage (.call loginCall), namesModule]

def unusedField : List SourceUnit := [loginPage [], namesModule]

def foreignField : List SourceUnit := [steppingPage (.call loginCall)]

/-- A call in a field is linked if a body has it too. -/
theorem fieldsLinked_iff_usedField : link usedField [] = .ok (linkedModel usedField []) ∧
      FieldsLinked (Project.ofUnits usedField) (linkedModel usedField []) := by
  have hlink : link usedField [] = .ok (linkedModel usedField []) :=
    link_eq_ok_iff.mpr ⟨rfl, rfl, rfl⟩
  have hstays : StaysInBody (Project.ofUnits usedField) loginCall :=
    ⟨⟨steppingPage (.call loginCall), loginCall, 5⟩, List.mem_singleton.mpr rfl, rfl, nofun⟩
  refine ⟨hlink, (fieldsLinked_iff hlink).2.2.mpr ?_⟩
  have hunits : (Project.ofUnits usedField).units = usedField := rfl
  have hcalls : fieldCalls (steppingPage (.call loginCall)) = [loginCall, loginCall] := rfl
  have hnone : fieldCalls namesModule = [] := rfl
  rw [hunits, usedField, List.forall_mem_cons, List.forall_mem_singleton, hcalls, hnone]
  refine ⟨?_, by simp⟩
  rw [List.forall_mem_cons, List.forall_mem_singleton, and_self]
  exact ⟨nofun, hstays⟩

/-- **Linking does not cover fields**: a call in a field has no method if no body has it, and is not
kept as text where its target is not in the project, although the same call in a body is. -/
theorem not_fieldsLinked_unusedField : (link unusedField [] = .ok (linkedModel unusedField []) ∧
      (linkedModel unusedField []).resolve? loginCall = none ∧
      ¬FieldsLinked (Project.ofUnits unusedField) (linkedModel unusedField [])) ∧
    (link foreignField [] = .ok (linkedModel foreignField []) ∧
      (linkedModel foreignField []).units = [steppingPage (.verbatim "Names.login()")] ∧
      ¬FieldsLinked (Project.ofUnits foreignField) (linkedModel foreignField [])) := by
  have hcall : ∀ actions, loginCall ∈ fieldCalls (loginPage actions) :=
    fun _ => List.mem_cons_self ..
  refine ⟨⟨link_eq_ok_iff.mpr ⟨rfl, rfl, rfl⟩, rfl, fun h => ?_⟩,
    link_eq_ok_iff.mpr ⟨rfl, rfl, rfl⟩, rfl, fun h => ?_⟩
  · obtain ⟨key, hkey⟩ := h.resolved (loginPage []) (List.mem_cons_self ..) loginCall (hcall _)
    cases hkey
  · obtain ⟨key, hkey⟩ := h.resolved _ (List.mem_cons_self ..) loginCall (hcall _)
    cases hkey

end TestMigration.Linking
