import Mathlib.Logic.Function.Iterate
import Mathlib.Logic.Relation
import TestMigration.Proofs.Tables
import TestMigration.Rendering.Run
/-!
# How far refusals spread

A written unit that imports a refused one is refused as well, and so on. The rounds that bring this
about take units away while they go over them, and a refusal counts at once. In which round a unit
falls, and with which words, depends on the order of the units; that it falls does not.

To see this, the rounds are taken apart into single drops (`Drops`), each of a written unit that
imports refused ones at that time. A dropped unit reaches, by way of written units, one refused at
the start (`Drops.reaches`), the others keep their order (`Drops.units_eq`), and each drop has one
refusal and one diagnostic. The rounds end because each but the last drops a unit, and then no
written unit imports a refused one (`exists_drops`, `Drops.mem_refused`).
-/

namespace TestMigration.Rendering

/-! ### Single drops -/

/-- A unit that falls, and the refused units that it imports. -/
structure Drop where
  unit : OutputUnit
  broken : List String

def Drop.refusal (d : Drop) : Refusal :=
  { fault := .dependency d.broken, unitName := d.unit.source }

/-- What is left after a drop. -/
def Result.without (r : Result) (d : Drop) : Result where
  units := r.units.erase d.unit
  refused := Table.put d.unit.source d.refusal r.refused
  diagnostics := r.diagnostics ++ [d.refusal.diagnostic]

/-- A unit has to fall: it is written and imports exactly the given refused units. -/
structure Drop.Due (imports : Imports) (r : Result) (d : Drop) : Prop where
  written : d.unit ∈ r.units
  broken_eq : d.broken = brokenImports imports r d.unit.source
  broken_ne : d.broken ≠ []

/-- Drops that follow each other, each of them due. -/
inductive Drops (imports : Imports) : Result → List Drop → Result → Prop where
  | done (r : Result) : Drops imports r [] r
  | step {r r' : Result} {d : Drop} {ds : List Drop} :
    d.Due imports r → Drops imports (r.without d) ds r' → Drops imports r (d :: ds) r'

/-- The written units come from different sources, none of them refused. -/
structure Result.Settled (r : Result) : Prop where
  distinct : (r.units.map OutputUnit.source).Nodup
  written : ∀ u ∈ r.units, u.source ∉ r.refused.keys

def Result.names (r : Result) : List String := r.units.map OutputUnit.source ++ r.refused.keys

/-- One unit imports another. -/
def Imports.Leads (imports : Imports) (a b : String) : Prop := b ∈ (Table.get? a imports).getD []

def Result.Uses (imports : Imports) (r : Result) (a b : String) : Prop :=
  a ∈ r.units.map OutputUnit.source ∧ imports.Leads a b

/-- A refused unit is reached by way of written ones. -/
def Result.Reaches (imports : Imports) (r : Result) (name : String) : Prop :=
  ∃ refused ∈ r.refused.keys, Relation.ReflTransGen (r.Uses imports) name refused

/-- No written unit imports a refused one. -/
def Result.Whole (imports : Imports) (r : Result) : Prop :=
  ∀ u ∈ r.units, ∀ name, imports.Leads u.source name → name ∉ r.refused.keys

section Single

variable {imports : Imports} {r : Result}
variable {source name : String} {d : Drop}

theorem mem_brokenImports :
    name ∈ brokenImports imports r source ↔ imports.Leads source name ∧ name ∈ r.refused.keys := by
  rw [brokenImports, sortTexts, mem_sortBy, List.mem_filter, Table.has_iff_mem_keys]
  rfl

theorem brokenImports_eq_nil_iff : brokenImports imports r source = [] ↔
      ∀ name, imports.Leads source name → name ∉ r.refused.keys := by
  simp only [List.eq_nil_iff_forall_not_mem, mem_brokenImports, not_and]

theorem dropIfBroken_cases (imports : Imports) {u : OutputUnit} (hu : u ∈ r.units) :
    brokenImports imports r u.source = [] ∧ dropIfBroken imports r u = r ∨
      ∃ d : Drop, d.unit = u ∧ d.Due imports r ∧ dropIfBroken imports r u = r.without d := by
  unfold dropIfBroken
  split
  · rename_i hnone
    exact .inl ⟨hnone, rfl⟩
  · rename_i hsome
    exact .inr ⟨⟨u, brokenImports imports r u.source⟩, rfl, ⟨hu, rfl, hsome⟩, rfl⟩

theorem Result.Settled.units_without (h : r.Settled) (hd : d.unit ∈ r.units) :
    (r.without d).units = r.units.filter fun u => u.source ≠ d.unit.source := by
  have hnodup : r.units.Nodup := List.Nodup.of_map _ h.distinct
  rw [Result.without, hnodup.erase_eq_filter]
  refine List.filter_congr fun u hu => ?_
  have hsame : u.source = d.unit.source ↔ u = d.unit :=
    ⟨fun heq => List.inj_on_of_nodup_map h.distinct hu hd heq, fun heq => by rw [heq]⟩
  by_cases heq : u = d.unit <;> simp [heq, hsame]

theorem Result.Settled.refused_without (h : r.Settled) (hd : d.unit ∈ r.units) :
    (r.without d).refused = r.refused ++ [(d.unit.source, d.refusal)] :=
  Table.put_of_not_mem (h.written d.unit hd) _

theorem mem_refused_without :
    name ∈ (r.without d).refused.keys ↔ name ∈ r.refused.keys ∨ name = d.unit.source := by
  rw [Result.without, Table.keys_put, mem_insertNew]

theorem Result.Settled.without (h : r.Settled) (hd : d.unit ∈ r.units) : (r.without d).Settled := by
  refine ⟨?_, fun u hu => ?_⟩
  · exact h.distinct.sublist ((List.erase_sublist ..).map _)
  · rw [h.units_without hd, List.mem_filter, decide_eq_true_eq] at hu
    rw [mem_refused_without, not_or]
    exact ⟨h.written u hu.1, hu.2⟩

end Single

/-! ### What a chain of drops does -/

namespace Drops

variable {imports : Imports} {r r' r'' : Result} {ds ds' : List Drop}
variable {d : Drop}

variable (h : Drops imports r ds r')
include h

theorem trans (h' : Drops imports r' ds' r'') : Drops imports r (ds ++ ds') r'' := by
  induction h with
  | done r => exact h'
  | step hdue _ ih => exact .step hdue (ih h')

theorem length_units : r'.units.length + ds.length = r.units.length := by
  induction h with
  | done r => rfl
  | step hdue _ ih =>
    rw [Result.without, List.length_erase_of_mem hdue.written] at ih
    have hpos := List.length_pos_of_mem hdue.written
    rw [List.length_cons]
    omega

theorem settled (hr : r.Settled) : r'.Settled := by
  induction h with
  | done r => exact hr
  | step hdue _ ih => exact ih (hr.without hdue.written)

theorem diagnostics_eq : r'.diagnostics = r.diagnostics ++ ds.map (·.refusal.diagnostic) := by
  induction h with
  | done r => simp
  | step _ _ ih => simp [ih, Result.without]

theorem refused_eq (hr : r.Settled) :
    r'.refused = r.refused ++ ds.map fun d => (d.unit.source, d.refusal) := by
  induction h with
  | done r => simp
  | step hdue _ ih =>
    rw [ih (hr.without hdue.written), hr.refused_without hdue.written]
    simp

theorem mem_refused_iff (hr : r.Settled) {name : String} :
    name ∈ r'.refused.keys ↔ name ∈ r.refused.keys ∨ ∃ d ∈ ds, d.unit.source = name := by
  simp [h.refused_eq hr, Table.keys]

theorem names_perm (hr : r.Settled) : r'.names.Perm r.names := by
  induction h with
  | done r => exact List.Perm.refl _
  | @step r d ds r' hdue _ ih =>
    refine (ih (hr.without hdue.written)).trans ?_
    have herase := (List.perm_cons_erase hdue.written).symm.map OutputUnit.source
    unfold Result.names
    rw [hr.refused_without hdue.written, Table.keys, List.map_append]
    refine List.Perm.trans ?_ (herase.append_right _)
    exact (List.perm_append_comm.append_left _).trans List.perm_middle

/-- **What is not refused is kept, in its order.** -/
theorem units_eq (hr : r.Settled) :
    r'.units = r.units.filter fun u => u.source ∉ r'.refused.keys := by
  induction h with
  | done r =>
    refine (List.filter_eq_self.mpr fun u hu => ?_).symm
    exact decide_eq_true (hr.written u hu)
  | step hdue hrest ih =>
    rw [ih (hr.without hdue.written), hr.units_without hdue.written, List.filter_filter]
    refine List.filter_congr fun u _ => ?_
    rw [← Bool.decide_and, decide_eq_decide]
    refine and_iff_left_of_imp fun hkept heq => hkept ?_
    rw [hrest.mem_refused_iff (hr.without hdue.written), mem_refused_without]
    exact .inl (.inr heq)

theorem mem_units (hd : d ∈ ds) : d.unit ∈ r.units := by
  induction h with
  | done r => cases hd
  | step hdue _ ih =>
    rcases List.mem_cons.mp hd with rfl | hrest
    · exact hdue.written
    · exact List.mem_of_mem_erase (ih hrest)

/-- **No unit falls twice.** -/
theorem nodup_sources (hr : r.Settled) : (ds.map (·.unit.source)).Nodup := by
  induction h with
  | done r => exact List.nodup_nil
  | step hdue hrest ih =>
    have hr' := hr.without hdue.written
    rw [List.map_cons, List.nodup_cons]
    refine ⟨fun hmem => ?_, ih hr'⟩
    obtain ⟨_, hd', heq⟩ := List.mem_map.mp hmem
    exact hr'.written _ (hrest.mem_units hd') (mem_refused_without.mpr (.inr heq))

/-- **A unit falls for units that were refused before it.** -/
theorem broken_before {before after : List Drop} (hds : ds = before ++ d :: after) :
    d.broken ≠ [] ∧ ∀ name ∈ d.broken, imports.Leads d.unit.source name ∧
      (name ∈ r.refused.keys ∨ ∃ e ∈ before, e.unit.source = name) := by
  induction h generalizing before with
  | done r => simp at hds
  | step hdue _ ih =>
    cases before with
    | nil =>
      obtain ⟨rfl, -⟩ := List.cons.inj hds
      refine ⟨hdue.broken_ne, fun name hname => ?_⟩
      rw [hdue.broken_eq, mem_brokenImports] at hname
      exact ⟨hname.1, .inl hname.2⟩
    | cons _ before =>
      obtain ⟨rfl, hrest⟩ := List.cons.inj hds
      obtain ⟨hsome, hbroken⟩ := ih hrest
      refine ⟨hsome, fun name hname => ⟨(hbroken name hname).1, ?_⟩⟩
      rcases (hbroken name hname).2 with hrefused | ⟨e, he, heq⟩
      · rw [mem_refused_without] at hrefused
        exact hrefused.imp_right fun heq => ⟨_, List.mem_cons_self, heq.symm⟩
      · exact .inr ⟨e, List.mem_cons_of_mem _ he, heq⟩

end Drops

/-! ### Who falls -/

section Reaches

variable {imports : Imports} {r r' : Result} {ds : List Drop}
variable {d : Drop} {name : String}

theorem Drop.Due.reaches (h : d.Due imports r) : r.Reaches imports d.unit.source := by
  obtain ⟨name, hname⟩ := List.exists_mem_of_ne_nil _ h.broken_ne
  rw [h.broken_eq, mem_brokenImports] at hname
  exact ⟨name, hname.2, .single ⟨List.mem_map_of_mem h.written, hname.1⟩⟩

/-- A drop makes no further unit reach a refused one. -/
theorem Result.Reaches.of_without (hdue : d.Due imports r)
    (h : (r.without d).Reaches imports name) : r.Reaches imports name := by
  obtain ⟨refused, hrefused, hpath⟩ := h
  have hpath : Relation.ReflTransGen (r.Uses imports) name refused := by
    refine Relation.ReflTransGen.mono (fun a b hstep => ?_) _ _ hpath
    exact ⟨List.map_subset _ List.erase_subset hstep.1, hstep.2⟩
  rcases mem_refused_without.mp hrefused with hold | rfl
  · exact ⟨refused, hold, hpath⟩
  · obtain ⟨refused, hold, hrest⟩ := hdue.reaches
    exact ⟨refused, hold, hpath.trans hrest⟩

/-- **Only what reaches a refused unit falls.** -/
theorem Drops.reaches (h : Drops imports r ds r') (hd : d ∈ ds) :
    r.Reaches imports d.unit.source := by
  induction h with
  | done r => cases hd
  | step hdue _ ih =>
    rcases List.mem_cons.mp hd with rfl | hrest
    · exact hdue.reaches
    · exact (ih hrest).of_without hdue

/-- **All that reaches a refused unit has fallen**, once no written unit imports one. -/
theorem Drops.mem_refused (h : Drops imports r ds r') (hr : r.Settled) (hwhole : r'.Whole imports)
    (hname : r.Reaches imports name) : name ∈ r'.refused.keys := by
  obtain ⟨_, hrefused, hpath⟩ := hname
  -- The path is followed backwards: each unit on it imports one that is refused in the end.
  induction hpath using Relation.ReflTransGen.head_induction_on with
  | refl => exact (h.mem_refused_iff hr).mpr (.inl hrefused)
  | head hstep _ ih =>
    obtain ⟨u, hu, rfl⟩ := List.mem_map.mp hstep.1
    by_contra hkept
    have hmem : u ∈ r'.units := by
      rw [h.units_eq hr]
      exact List.mem_filter.mpr ⟨hu, decide_eq_true hkept⟩
    exact hwhole u hmem _ hstep.2 ih

/-- If only written units have imports, a path may go through any units. -/
theorem reaches_iff_of_keys (hkeys : ∀ name ∈ imports.keys, name ∈ r.units.map OutputUnit.source) :
    r.Reaches imports name ↔
      ∃ refused ∈ r.refused.keys, Relation.ReflTransGen imports.Leads name refused := by
  have huses : ∀ {a b}, r.Uses imports a b ↔ imports.Leads a b := by
    refine fun {a b} => and_iff_right_of_imp fun hleads => hkeys a ?_
    cases hget : Table.get? a imports with
    | some => exact Table.mem_keys_of_get? hget
    | none =>
      rw [Imports.Leads, hget] at hleads
      cases hleads
  refine exists_congr fun refused => and_congr_right fun _ => ?_
  exact ⟨Relation.ReflTransGen.mono (fun _ _ => huses.mp) _ _,
    Relation.ReflTransGen.mono (fun _ _ => huses.mpr) _ _⟩

end Reaches

/-! ### Rounds -/

section Rounds

variable {imports : Imports} {r : Result}

/-- A walk over written units is a chain of drops; without any, each of them is whole. -/
theorem exists_drops_foldl (imports : Imports) (us : List OutputUnit) (hus : us.Nodup)
    (hmem : ∀ u ∈ us, u ∈ r.units) : ∃ ds, Drops imports r ds (us.foldl (dropIfBroken imports) r) ∧
      (ds = [] → ∀ u ∈ us, brokenImports imports r u.source = []) := by
  induction us generalizing r with
  | nil => exact ⟨[], .done r, by simp⟩
  | cons u rest ih =>
    rw [List.nodup_cons] at hus
    rcases dropIfBroken_cases imports (hmem u List.mem_cons_self) with
      ⟨hnone, hsame⟩ | ⟨d, rfl, hdue, hdrop⟩
    · obtain ⟨ds, hdrops, hrest⟩ := ih hus.2 fun v hv => hmem v (List.mem_cons_of_mem _ hv)
      refine ⟨ds, by rwa [List.foldl_cons, hsame], fun hds v hv => ?_⟩
      rcases List.mem_cons.mp hv with rfl | hv
      · exact hnone
      · exact hrest hds v hv
    · have hleft : ∀ v ∈ rest, v ∈ (r.without d).units := fun v hv => by
        have hne : v ≠ d.unit := fun heq => hus.1 (heq ▸ hv)
        exact (List.mem_erase_of_ne hne).mpr (hmem v (List.mem_cons_of_mem _ hv))
      obtain ⟨ds, hdrops, -⟩ := ih hus.2 hleft
      exact ⟨d :: ds, by rw [List.foldl_cons, hdrop]; exact .step hdue hdrops, by simp⟩

theorem exists_drops_dropRound (imports : Imports) (hr : r.Settled) :
    ∃ ds, Drops imports r ds (dropRound imports r) ∧ (ds = [] → r.Whole imports) := by
  obtain ⟨ds, hdrops, hnone⟩ := exists_drops_foldl imports r.units
    (List.Nodup.of_map _ hr.distinct) fun u hu => hu
  refine ⟨ds, hdrops, fun hds u hu => ?_⟩
  exact brokenImports_eq_nil_iff.mp (hnone hds u hu)

theorem Result.Whole.dropRound_eq (h : r.Whole imports) : dropRound imports r = r := by
  have hsame : ∀ us : List OutputUnit, (∀ u ∈ us, u ∈ r.units) →
      us.foldl (dropIfBroken imports) r = r := by
    intro us hus
    induction us with
    | nil => rfl
    | cons u _ ih =>
      have hnone := brokenImports_eq_nil_iff.mpr (h u (hus u List.mem_cons_self))
      have hfirst : dropIfBroken imports r u = r := by rw [dropIfBroken, hnone]
      rw [List.foldl_cons, hfirst]
      exact ih fun v hv => hus v (List.mem_cons_of_mem _ hv)
  exact hsame r.units fun u hu => hu

/-- **The rounds come to an end**, after at most as many as there are written units. Together they
are a chain of drops, behind which no written unit imports a refused one. -/
theorem exists_drops (imports : Imports) (hr : r.Settled) {n : Nat} (hn : r.units.length ≤ n) :
    ∃ rounds ≤ r.units.length, dropRounds imports n r = (dropRound imports)^[rounds] r ∧
      (∃ ds, Drops imports r ds (dropRounds imports n r)) ∧
        (dropRounds imports n r).Whole imports := by
  induction n generalizing r with
  | zero =>
    have hnone : r.units = [] := List.eq_nil_of_length_eq_zero (Nat.le_zero.mp hn)
    exact ⟨0, Nat.zero_le _, rfl, ⟨[], .done r⟩, by simp [dropRounds, Result.Whole, hnone]⟩
  | succ n ih =>
    obtain ⟨ds, hdrops, hnone⟩ := exists_drops_dropRound imports hr
    have hlength := hdrops.length_units
    rw [dropRounds]
    split
    · have hwhole := hnone (List.eq_nil_of_length_eq_zero (by omega))
      rw [hwhole.dropRound_eq]
      exact ⟨0, Nat.zero_le _, rfl, ⟨[], .done r⟩, hwhole⟩
    · obtain ⟨rounds, _, heq, ⟨ds', hdrops'⟩, hwhole⟩ :=
        ih (hdrops.settled hr) (by omega : (dropRound imports r).units.length ≤ n)
      refine ⟨rounds + 1, by omega, ?_, ⟨ds ++ ds', hdrops.trans hdrops'⟩, hwhole⟩
      rw [heq, Function.iterate_succ_apply]

end Rounds

/-! ### All rounds together -/

/-- What the spreading of refusals does to a result. -/
structure Spread (imports : Imports) (r r' : Result) (ds : List Drop) : Prop where
  /-- Each dropped unit was written, and is dropped once. -/
  written : ∀ d ∈ ds, d.unit ∈ r.units
  once : (ds.map (·.unit.source)).Nodup
  /-- Each has one refusal and one diagnostic, in the order of the drops. -/
  refused : r'.refused = r.refused ++ ds.map fun d => (d.unit.source, d.refusal)
  diagnostics : r'.diagnostics = r.diagnostics ++ ds.map (·.refusal.diagnostic)
  /-- It names imported units, at least one, all refused before. -/
  named : ∀ before d after, ds = before ++ d :: after → d.broken ≠ [] ∧
    ∀ name ∈ d.broken, imports.Leads d.unit.source name ∧
      (name ∈ r.refused.keys ∨ ∃ e ∈ before, e.unit.source = name)
  units : r'.units = r.units.filter fun u => u.source ∉ r'.refused.keys
  /-- None of them imports a refused unit. -/
  whole : r'.Whole imports
  /-- The refused units are those of the start and the written ones that reach them. -/
  least : ∀ name, name ∈ r'.refused.keys ↔ name ∈ r.refused.keys ∨
    name ∈ r.units.map OutputUnit.source ∧ r.Reaches imports name

theorem exists_spread (imports : Imports) {r : Result} (hr : r.Settled) :
    ∃ ds, Spread imports r (dropDependents imports r) ds := by
  obtain ⟨-, -, -, ⟨ds, hdrops⟩, hwhole⟩ := exists_drops imports hr (Nat.le_refl r.units.length)
  refine ⟨ds, fun d hd => hdrops.mem_units hd, hdrops.nodup_sources hr, hdrops.refused_eq hr,
    hdrops.diagnostics_eq, fun _ _ _ hds => hdrops.broken_before hds, hdrops.units_eq hr, hwhole,
    fun name => ⟨fun hname => ?_, ?_⟩⟩
  · refine ((hdrops.mem_refused_iff hr).mp hname).imp_right ?_
    rintro ⟨d, hd, rfl⟩
    exact ⟨List.mem_map_of_mem (hdrops.mem_units hd), hdrops.reaches hd⟩
  · rintro (hstart | ⟨-, hreaches⟩)
    · exact (hdrops.mem_refused_iff hr).mpr (.inl hstart)
    · exact hdrops.mem_refused hr hwhole hreaches

/-- A dropped unit becomes a refused one, so no name comes or goes. -/
theorem names_dropDependents_perm (imports : Imports) {r : Result} (hr : r.Settled) :
    (dropDependents imports r).names.Perm r.names := by
  obtain ⟨-, -, -, ⟨_, hdrops⟩, -⟩ := exists_drops imports hr (Nat.le_refl r.units.length)
  exact hdrops.names_perm hr

/-- How refusals spread: to exactly the units that reach a refused one, in at most as many rounds as
there are written units. -/
structure SpreadsExactly (imports : Imports) (r : Result) : Prop where
  ends : ∃ rounds ≤ r.units.length, dropDependents imports r = (dropRound imports)^[rounds] r ∧
    dropRound imports (dropDependents imports r) = dropDependents imports r
  spread : ∃ ds, Spread imports r (dropDependents imports r) ds
  /-- If only written units have imports, as in a run, paths go through any imports. -/
  reached : (∀ name ∈ imports.keys, name ∈ r.units.map OutputUnit.source) →
    ∀ name, name ∈ (dropDependents imports r).refused.keys ↔ name ∈ r.refused.keys ∨
      name ∈ r.units.map OutputUnit.source ∧
        ∃ refused ∈ r.refused.keys, Relation.ReflTransGen imports.Leads name refused

theorem spreadsExactly_of_settled (imports : Imports) {r : Result} (hr : r.Settled) :
    SpreadsExactly imports r := by
  obtain ⟨ds, hspread⟩ := exists_spread imports hr
  obtain ⟨rounds, hrounds, heq, -, hwhole⟩ := exists_drops imports hr (Nat.le_refl r.units.length)
  refine ⟨⟨rounds, hrounds, heq, hwhole.dropRound_eq⟩, ⟨ds, hspread⟩, fun hkeys name => ?_⟩
  rw [hspread.least, reaches_iff_of_keys hkeys]

end TestMigration.Rendering
