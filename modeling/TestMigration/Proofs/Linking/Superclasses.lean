import Mathlib.Data.List.Perm.Subperm
import TestMigration.Proofs.Linking.Calls
/-!
# The way up to a method

A call is resolved by going up from its target: as long as a unit does not declare the method, its
superclass is read anew from the names in scope there. The linked model instead has a table from
units to superclasses, which its chain of superclasses follows. Both stop at a unit they have come
through before.

The two ways agree because units have distinct names, so the table holds for each unit what reading
its superclass gives (`get?_superclasses`), and the unit in which a method is found stands in the
chain, behind units that do not declare it (`superclassChain_of_lineage`). But the chain takes the
empty text for the absence of a superclass, so the names of units must not be empty.
-/

namespace TestMigration.Linking

open TestMigration.Action Text

def declares (c : Call) (u : SourceUnit) : Bool :=
  !(u.findMethods c.method (some c.arity)).isEmpty

/-- An import makes a simple name mean a qualified one: it imports the class, or its whole
package. -/
def Imports (simple imported name : String) : Prop :=
  startsWith "static " imported = false ∧
    (imported = name ∧ endsWith ("." ++ simple) imported = true ∨
      ∃ package, imported = package ++ ".*" ∧ name = package ++ "." ++ simple)

/-- The qualified names that a type name can stand for in a unit. -/
inductive Denotes (u : SourceUnit) (typeName : String) : String → Prop
  | qualified : occursIn "." typeName = true → Denotes u typeName typeName
  | imported {imported name : String} : imported ∈ u.imports →
      Imports (afterLast '.' typeName) imported name → Denotes u typeName name
  | package : u.package ≠ "" → Denotes u typeName (u.package ++ "." ++ afterLast '.' typeName)

/-- An import of a whole package is its name with an ending. -/
theorem eq_append_of_endsWith {imported : String} (h : endsWith ".*" imported = true) :
    imported = String.ofList (imported.toList.take (imported.length - 2)) ++ ".*" := by
  obtain ⟨package, hpackage⟩ := List.isSuffixOf_iff_suffix.mp h
  have hlength : imported.length = package.length + 2 := by
    rw [← String.length_toList, ← hpackage, List.length_append]
    rfl
  rw [← String.toList_inj, String.toList_append, String.toList_ofList, hlength, ← hpackage,
    Nat.add_sub_cancel, List.take_left]

namespace Project

variable {p : Project} {u v : SourceUnit} {c : Call}

/-! ### Names lead to units of the project -/

variable {name typeName : String} {n : Nat} {seen : List String}

theorem mem_of_qualified? (h : p.qualified? name = some v) : v ∈ p.units := by
  simpa using List.mem_of_find?_eq_some h

theorem name_of_qualified? (h : p.qualified? name = some v) : v.qualifiedName = name := by
  simpa using List.find?_some h

theorem imports_of_imported? {simple imported : String} (h : p.imported? simple imported = some v) :
    Imports simple imported v.qualifiedName ∧ p.qualified? v.qualifiedName = some v := by
  rw [imported?] at h
  split at h
  · cases h
  · rename_i hplain
    simp only [Option.orElse_eq_orElse, Option.orElse_eq_or, Option.or_eq_some_iff] at h
    rcases h with hexact | ⟨-, hall⟩
    · split at hexact
      · rename_i hends
        have hname := name_of_qualified? hexact
        exact ⟨⟨by simpa using hplain, .inl ⟨hname.symm, hends⟩⟩, hname ▸ hexact⟩
      · cases hexact
    · split at hall
      · rename_i hends
        have hname := name_of_qualified? hall
        exact ⟨⟨by simpa using hplain, .inr ⟨_, eq_append_of_endsWith hends, hname⟩⟩, hname ▸ hall⟩
      · cases hall

/-- What a name leads to before simple names are compared: the unit itself, or the last unit of a
qualified name that it denotes. -/
theorem denotes_of_near? (h : p.near? typeName u = some v) :
    (afterLast '.' typeName = u.simpleName ∧ u = v) ∨
      Denotes u typeName v.qualifiedName ∧ p.qualified? v.qualifiedName = some v := by
  rw [near?] at h
  simp only [Option.orElse_eq_orElse, Option.orElse_eq_or, Option.or_eq_some_iff] at h
  rcases h with hfull | ⟨-, hself | ⟨-, himports | ⟨-, hpackage⟩⟩⟩
  · split at hfull
    · rename_i hdot
      have hname := name_of_qualified? hfull
      exact .inr ⟨by rw [hname]; exact .qualified hdot, hname ▸ hfull⟩
    · cases hfull
  · split at hself
    · rename_i heq
      exact .inl ⟨beq_iff_eq.mp heq, Option.some.inj hself⟩
    · cases hself
  · obtain ⟨_, hmem, himported⟩ := List.exists_of_findSome?_eq_some himports
    obtain ⟨himports, hlast⟩ := imports_of_imported? himported
    exact .inr ⟨.imported hmem himports, hlast⟩
  · split at hpackage
    · cases hpackage
    · rename_i hne
      have hname := name_of_qualified? hpackage
      exact .inr ⟨by rw [hname]; exact .package (by simpa using hne), hname ▸ hpackage⟩

theorem mem_of_near? (hu : u ∈ p.units) (h : p.near? typeName u = some v) : v ∈ p.units := by
  rcases denotes_of_near? h with ⟨-, rfl⟩ | ⟨-, hlast⟩
  · exact hu
  · exact mem_of_qualified? hlast

/-- **A type name leads to a unit of the project.** -/
theorem mem_of_resolveType (hu : u ∈ p.units) (h : p.resolveType typeName u = .found v) :
    v ∈ p.units := by
  rw [resolveType] at h
  split at h
  · rename_i w hnear
    cases h
    exact mem_of_near? hu hnear
  · split at h
    · cases h
    · rename_i w hfilter
      cases h
      exact List.mem_of_mem_filter (hfilter ▸ List.mem_singleton_self v)
    · cases h

/-! ### The table of superclasses -/

theorem mem_of_superclass? (hu : u ∈ p.units) (h : (p.superclass? u).1 = some v) : v ∈ p.units := by
  rw [superclass?] at h
  split at h
  · cases h
  · rw [typeWithIssue] at h
    split at h
    · rename_i w hfound
      cases h
      exact mem_of_resolveType hu hfound
    · cases h
    · cases h

/-- The row of a unit in the table of superclasses; none if its superclass leads back to itself. -/
def parentRow? (p : Project) (u : SourceUnit) : Option (String × String) :=
  match (p.superclass? u).1 with
  | some v => if v.unitName == u.unitName then none else some (u.unitName, v.unitName)
  | none => none

/-- Reading superclasses adds a row for each unit whose superclass is another unit. -/
theorem foldl_superclass? (p : Project) (units : List SourceUnit) (links : Table String String)
    (issues : List Issue) : units.foldl (fun (links, issues) u =>
      match p.superclass? u with
      | (some v, more) =>
        (if v.unitName == u.unitName then links else Table.put u.unitName v.unitName links,
          issues ++ more)
      | (none, more) => (links, issues ++ more)) (links, issues) =
    (Table.merge links (units.filterMap p.parentRow?),
      issues ++ units.flatMap fun u => (p.superclass? u).2) := by
  induction units generalizing links issues with
  | nil => simp [Table.merge]
  | cons u _ ih =>
    rcases hsuper : p.superclass? u with ⟨parent, more⟩
    cases parent with
    | none =>
      have hentry : p.parentRow? u = none := by simp [parentRow?, hsuper]
      simp only [List.foldl_cons, hsuper, List.filterMap_cons_none hentry, List.flatMap_cons, ih,
        List.append_assoc]
    | some v =>
      by_cases hself : v.unitName = u.unitName
      · have hentry : p.parentRow? u = none := by simp [parentRow?, hsuper, hself]
        simp only [List.foldl_cons, hsuper, List.filterMap_cons_none hentry, List.flatMap_cons, ih,
          List.append_assoc, hself, beq_self_eq_true, if_true]
      · have hentry : p.parentRow? u = some (u.unitName, v.unitName) := by
          simp [parentRow?, hsuper, hself]
        simp only [List.foldl_cons, hsuper, List.filterMap_cons_some hentry, List.flatMap_cons, ih,
          List.append_assoc, beq_eq_false_iff_ne.mpr hself, Bool.false_eq_true, if_false,
          Table.merge]

theorem superclasses_eq (p : Project) :
    p.superclasses = (Table.ofPairs (p.units.filterMap p.parentRow?),
      p.units.flatMap fun u => (p.superclass? u).2) :=
  foldl_superclass? p p.units [] []

theorem parentRow?_eq_some {entry : String × String} (h : p.parentRow? u = some entry) :
    ∃ v, (p.superclass? u).1 = some v ∧ entry = (u.unitName, v.unitName) := by
  rw [parentRow?] at h
  split at h
  · rename_i v hsuper
    split at h
    · cases h
    · exact ⟨v, hsuper, (Option.some.inj h).symm⟩
  · cases h

theorem fst_of_parentRow? {entry : String × String} (h : p.parentRow? u = some entry) :
    entry.1 = u.unitName := by
  obtain ⟨v, -, rfl⟩ := parentRow?_eq_some h
  rfl

variable (hnames : (p.units.map SourceUnit.unitName).Nodup)
include hnames

theorem eq_of_unitName (hu : u ∈ p.units) (hv : v ∈ p.units) (h : u.unitName = v.unitName) :
    u = v :=
  List.inj_on_of_nodup_map hnames hu hv h

/-- **The table holds for each unit its superclass as read.** -/
theorem get?_superclasses (hu : u ∈ p.units) :
    Table.get? u.unitName p.superclasses.1 = (p.parentRow? u).map Prod.snd := by
  rw [superclasses_eq]
  have hagree : ∀ parent, (u.unitName, parent) ∈ p.units.filterMap p.parentRow? →
      p.parentRow? u = some (u.unitName, parent) := by
    intro parent hmem
    obtain ⟨w, hw, hentry⟩ := List.mem_filterMap.mp hmem
    obtain rfl := eq_of_unitName hnames hu hw (fst_of_parentRow? hentry)
    exact hentry
  cases hentry : p.parentRow? u with
  | none =>
    cases hget : Table.get? u.unitName (Table.ofPairs (p.units.filterMap p.parentRow?)) with
    | none => rfl
    | some parent =>
      rw [hagree parent (Table.mem_of_get?_ofPairs hget)] at hentry
      cases hentry
  | some entry =>
    obtain ⟨name, parent⟩ := entry
    obtain rfl : name = u.unitName := fst_of_parentRow? hentry
    refine Table.get?_ofPairs_of_agree (List.mem_filterMap.mpr ⟨u, hu, hentry⟩) fun b hb => ?_
    have := hagree b hb
    rw [hentry] at this
    cases this
    rfl

omit hnames

theorem exists_unit_of_get?_superclasses {parent : String}
    (h : Table.get? name p.superclasses.1 = some parent) : ∃ v ∈ p.units, v.unitName = parent := by
  rw [superclasses_eq] at h
  obtain ⟨w, hw, hentry⟩ := List.mem_filterMap.mp (Table.mem_of_get?_ofPairs h)
  obtain ⟨v, hsuper, heq⟩ := parentRow?_eq_some hentry
  exact ⟨v, mem_of_superclass? hw hsuper, (congrArg Prod.snd heq).symm⟩

/-! ### The way up -/

/-- Going up from a unit, the units `above` come next; the last of all, the owner, is the first that
declares the method of the call, and does so once. -/
inductive Lineage (p : Project) (c : Call) : SourceUnit → List SourceUnit → SourceUnit → Prop
  | here {u : SourceUnit} {m : Method} :
      u.findMethods c.method (some c.arity) = [m] → Lineage p c u [] u
  | up {u v owner : SourceUnit} {above : List SourceUnit} :
      u.findMethods c.method (some c.arity) = [] → (p.superclass? u).1 = some v →
      Lineage p c v above owner → Lineage p c u (v :: above) owner

/-- A method is found at the end of a way up that meets no unit twice. -/
theorem lineage_of_methodFrom {caller : SourceUnit} {line : Nat} {target : String} {key : MethodKey}
    {issues : List Issue}
    (h : p.methodFrom c caller line target n seen (some u) = (some key, issues)) :
    ∃ above owner, Lineage p c u above owner ∧ ((u :: above).map SourceUnit.unitName).Nodup ∧
      (∀ v ∈ u :: above, v.unitName ∉ seen) ∧ key = ⟨owner.unitName, c.method, c.arity⟩ := by
  induction n generalizing u seen issues with
  | zero => simp [methodFrom] at h
  | succ n ih =>
    rw [methodFrom] at h
    split at h
    · cases h
    · rename_i hseen
      have hnew : u.unitName ∉ seen := by simpa using hseen
      split at h
      · rename_i m hm
        cases h
        exact ⟨[], u, .here hm, by simp, by simpa using hnew, rfl⟩
      · rename_i hnone
        rcases hsuper : p.superclass? u with ⟨parent, _⟩
        simp only [hsuper, Prod.mk.injEq] at h
        cases parent with
        | none => cases n <;> simp [methodFrom] at h
        | some v =>
          obtain ⟨above, owner, hway, hnodup, hfresh, hkey⟩ := ih (Prod.ext h.1 rfl)
          refine ⟨v :: above, owner, .up hnone (by rw [hsuper]) hway, ?_, ?_, hkey⟩
          · rw [List.map_cons, List.nodup_cons]
            refine ⟨fun hmem => ?_, hnodup⟩
            obtain ⟨w, hw, hname⟩ := List.mem_map.mp hmem
            exact hfresh w hw (by simp [hname])
          · intro w hw
            rcases List.mem_cons.mp hw with rfl | hw
            · exact hnew
            · exact fun hmem => hfresh w hw (List.mem_cons_of_mem _ hmem)
      · cases h

namespace Lineage

variable {above : List SourceUnit} {owner : SourceUnit}

theorem mem (h : Lineage p c u above owner) (hu : u ∈ p.units) : ∀ w ∈ u :: above, w ∈ p.units := by
  induction h with
  | here => simpa using hu
  | up _ hsuper _ ih =>
    intro w hw
    rcases List.mem_cons.mp hw with rfl | hw
    · exact hu
    · exact ih (mem_of_superclass? hu hsuper) w hw

/-- On the way up and beyond, the owner is the first that declares the method. -/
theorem find? (h : Lineage p c u above owner) (more : List SourceUnit) :
    (u :: above ++ more).find? (declares c) = some owner := by
  induction h with
  | here hm => simp [declares, hm]
  | up hnone _ _ ih =>
    rw [List.cons_append, List.find?_cons_of_neg (by simp [declares, hnone])]
    exact ih

theorem owner_mem (h : Lineage p c u above owner) : owner ∈ u :: above := by
  induction h with
  | here => simp
  | up _ _ _ ih => exact List.mem_cons_of_mem _ ih

theorem findMethods_owner (h : Lineage p c u above owner) :
    ∃ m, owner.findMethods c.method (some c.arity) = [m] := by
  induction h with
  | here hm => exact ⟨_, hm⟩
  | up _ _ _ ih => exact ih

end Lineage

include hnames

theorem get?_superclasses_of_superclass? (hu : u ∈ p.units) (hsuper : (p.superclass? u).1 = some v)
    (hne : u.unitName ≠ v.unitName) :
    Table.get? u.unitName p.superclasses.1 = some v.unitName := by
  rw [get?_superclasses hnames hu, parentRow?, hsuper]
  simp [hne.symm]

/-- Every unit of the way up but the last has a row in the table, which bounds the way. -/
theorem Lineage.length_le {above : List SourceUnit} {owner : SourceUnit}
    (h : Lineage p c u above owner) (hu : u ∈ p.units)
    (hnodup : ((u :: above).map SourceUnit.unitName).Nodup) :
    above.length ≤ p.superclasses.1.length := by
  have hentries : ∀ w ∈ (u :: above).dropLast, w.unitName ∈ p.superclasses.1.keys := by
    induction h with
    | here => simp
    | @up u v owner above _ hsuper _ ih =>
      rw [List.map_cons, List.nodup_cons] at hnodup
      intro w hw
      rcases List.mem_cons.mp hw with rfl | hw
      · refine Table.mem_keys_of_get? (get?_superclasses_of_superclass? hnames hu hsuper ?_)
        exact fun hsame => hnodup.1 (by simp [hsame])
      · exact ih (mem_of_superclass? hu hsuper) hnodup.2 w hw
  have hsub : (u :: above).dropLast.map SourceUnit.unitName ⊆ p.superclasses.1.keys := by
    intro _ hname
    obtain ⟨w, hw, rfl⟩ := List.mem_map.mp hname
    exact hentries w hw
  have hdistinct : ((u :: above).dropLast.map SourceUnit.unitName).Nodup :=
    hnodup.sublist ((List.dropLast_sublist _).map _)
  have hlength := (List.Nodup.subperm hdistinct hsub).length_le
  simpa [Table.keys] using hlength

/-! ### The chain of the model -/

theorem superclassNames_of_lineage {above : List SourceUnit} {owner : SourceUnit}
    (h : Lineage p c u above owner) (hnamed : ∀ w ∈ p.units, w.unitName ≠ "") (hu : u ∈ p.units)
    (hnodup : ((u :: above).map SourceUnit.unitName).Nodup)
    (hseen : ∀ w ∈ above, w.unitName ∉ seen) (hn : above.length ≤ n) :
    ∃ more, Model.superclassNames p.superclasses.1 n seen u.unitName =
      above.map SourceUnit.unitName ++ more := by
  induction h generalizing n seen with
  | here => exact ⟨_, rfl⟩
  | @up u v owner above _ hsuper _ ih =>
    cases n with
    | zero => simp at hn
    | succ n =>
      rw [List.map_cons, List.nodup_cons] at hnodup
      have hother : u.unitName ≠ v.unitName := fun hsame => hnodup.1 (by simp [hsame])
      have hv := mem_of_superclass? hu hsuper
      have hnew : v.unitName ∉ seen := hseen v (by simp)
      -- From the parent on, its name counts as seen; it is not met again.
      have hnext : ∀ w ∈ above, w.unitName ∉ v.unitName :: seen := by
        intro w hw hmem
        rcases List.mem_cons.mp hmem with hsame | hmem
        · exact (List.nodup_cons.mp hnodup.2).1 (hsame ▸ List.mem_map_of_mem hw)
        · exact hseen w (List.mem_cons_of_mem _ hw) hmem
      obtain ⟨more, hmore⟩ := ih hv hnodup.2 hnext (Nat.le_of_succ_le_succ hn)
      refine ⟨more, ?_⟩
      rw [Model.superclassNames, get?_superclasses_of_superclass? hnames hu hsuper hother]
      simp [hnamed v hv, hnew, hmore]

theorem find?_unitName (hu : u ∈ p.units) :
    p.units.find? (·.unitName == u.unitName) = some u := by
  cases hfind : p.units.find? (·.unitName == u.unitName) with
  | none => exact absurd (List.find?_eq_none.mp hfind u hu) (by simp)
  | some w =>
    have hname : w.unitName = u.unitName := by simpa using List.find?_some hfind
    rw [eq_of_unitName hnames (List.mem_of_find?_eq_some hfind) hu hname]

omit hnames

theorem exists_get?_of_mem_superclassNames {table : Table String String} {x : String}
    (h : x ∈ Model.superclassNames table n seen name) :
    ∃ child, Table.get? child table = some x := by
  induction n generalizing seen name with
  | zero => simp [Model.superclassNames] at h
  | succ n ih =>
    rw [Model.superclassNames] at h
    split at h
    · simp at h
    · rename_i parent hparent
      split at h
      · simp at h
      · rcases List.mem_cons.mp h with rfl | h
        · exact ⟨name, hparent⟩
        · exact ih h

theorem exists_map_unitName {names : List String}
    (h : ∀ name ∈ names, ∃ w ∈ p.units, w.unitName = name) :
    ∃ ws : List SourceUnit, (∀ w ∈ ws, w ∈ p.units) ∧ names = ws.map SourceUnit.unitName := by
  induction names with
  | nil => exact ⟨[], by simp, rfl⟩
  | cons name _ ih =>
    obtain ⟨ws, hws, rfl⟩ := ih fun x hx => h x (List.mem_cons_of_mem _ hx)
    obtain ⟨w, hw, rfl⟩ := h name (by simp)
    exact ⟨w :: ws, by simpa [hw] using hws, rfl⟩

end Project

theorem findMethods_demoteUnit (demoted : String → Bool) (u : SourceUnit) (name : String)
    (arity : Option Nat) : (demoteUnit demoted u).findMethods name arity =
      (u.findMethods name arity).map (demoteMethod demoted) := by
  simp only [SourceUnit.findMethods, demoteUnit, List.filter_map]
  rfl

@[simp]
theorem declares_demoteUnit (demoted : String → Bool) (c : Call) (u : SourceUnit) :
    declares c (demoteUnit demoted u) = declares c u := by
  simp [declares, findMethods_demoteUnit]

/-- A model with the units and superclasses of a project, up to demoted calls. -/
structure LinkedFrom (p : Project) (demoted : String → Bool) (m : Model) : Prop where
  units : m.units = p.units.map (demoteUnit demoted)
  superclasses : m.superclasses = p.superclasses.1

namespace LinkedFrom

variable {p : Project} {demoted : String → Bool} {m : Model} {u owner : SourceUnit} {c : Call}
  {above : List SourceUnit} (h : LinkedFrom p demoted m)
  (hnames : (p.units.map SourceUnit.unitName).Nodup)
include h hnames

theorem unit_eq (hu : u ∈ p.units) : m.unit u.unitName = .ok (demoteUnit demoted u) := by
  have hfind : m.unit? u.unitName = some (demoteUnit demoted u) := by
    rw [Model.unit?, h.units, List.find?_map]
    exact congrArg (Option.map (demoteUnit demoted)) (Project.find?_unitName hnames hu)
  rw [Model.unit, hfind]

theorem method_eq (hu : u ∈ p.units) {name : String} {arity : Nat} {found : Method}
    (hfind : u.findMethods name (some arity) = [found]) :
    m.method ⟨u.unitName, name, arity⟩ = .ok (demoteMethod demoted found) := by
  have hdemoted : (demoteUnit demoted u).findMethods name (some arity) =
      [demoteMethod demoted found] := by
    rw [findMethods_demoteUnit, hfind, List.map_singleton]
  simp only [Model.method, h.unit_eq hnames hu, Bind.bind, Except.bind, hdemoted]

theorem mapM_unit {ws : List SourceUnit} (hws : ∀ w ∈ ws, w ∈ p.units) :
    (ws.map SourceUnit.unitName).mapM m.unit = .ok (ws.map (demoteUnit demoted)) := by
  induction ws with
  | nil => rfl
  | cons w _ ih =>
    rw [List.map_cons, List.mapM_cons, h.unit_eq hnames (hws w (by simp)),
      ih fun x hx => hws x (List.mem_cons_of_mem _ hx)]
    rfl

/-- **The superclass chain of the model leads to the owner of a method first.** -/
theorem superclassChain_of_lineage (hnamed : ∀ w ∈ p.units, w.unitName ≠ "")
    (hu : u ∈ p.units) (hway : p.Lineage c u above owner)
    (hnodup : ((u :: above).map SourceUnit.unitName).Nodup) :
    ∃ chain, m.superclassChain u.unitName = .ok chain ∧
      (demoteUnit demoted u :: chain).find? (declares c) = some (demoteUnit demoted owner) := by
  have hfresh : ∀ w ∈ above, w.unitName ∉ [u.unitName] := by
    intro w hw hmem
    have hsame : w.unitName = u.unitName := by simpa using hmem
    exact (List.nodup_cons.mp hnodup).1 (hsame ▸ List.mem_map_of_mem hw)
  obtain ⟨more, hmore⟩ := Project.superclassNames_of_lineage hnames hway hnamed hu hnodup hfresh
    (hway.length_le hnames hu hnodup)
  have hunits : ∀ name ∈ more, ∃ w ∈ p.units, w.unitName = name := by
    intro name hname
    obtain ⟨_, hchild⟩ := Project.exists_get?_of_mem_superclassNames
      (hmore ▸ List.mem_append_right _ hname)
    exact Project.exists_unit_of_get?_superclasses hchild
  obtain ⟨ws, hws, rfl⟩ := Project.exists_map_unitName hunits
  refine ⟨(above ++ ws).map (demoteUnit demoted), ?_, ?_⟩
  · rw [Model.superclassChain, h.superclasses, hmore, ← List.map_append]
    refine h.mapM_unit hnames fun w hw => ?_
    rcases List.mem_append.mp hw with hw | hw
    · exact hway.mem hu w (List.mem_cons_of_mem _ hw)
    · exact hws w hw
  · rw [← List.map_cons, List.find?_map]
    have hsame : declares c ∘ demoteUnit demoted = declares c :=
      funext (declares_demoteUnit demoted c)
    rw [hsame, ← List.cons_append, hway.find? ws]
    rfl

end LinkedFrom

end TestMigration.Linking
