import Mathlib.Data.List.Induction
import TestMigration.Conversion.Report
import TestMigration.Proofs.Extraction.Effects
import TestMigration.Proofs.Tables
/-!
# Reading the sources of a run

Each source is read on its own: it becomes a unit, is rejected, or stops the run. Units and
rejections bear the name of their source (`unitName_of_readOne`, `unitName_of_rejected`). So if the
sources have different names, what has been read is the list of what was read from each
(`foldlM_readNext_eq_ok_iff`), and each name is that of a unit or of a rejected source
(`names_intakeOf_perm`).

All of this is so for every parser. What a parser cannot make fit shows in the tree; a source is
rejected only because it is not balanced (`Syntax.readText_rejected_iff`) or has no class.
-/

namespace TestMigration

variable {parser : Syntax.Parser} {tree : Syntax.Tree} {r : Syntax.Rejection} {u : SourceUnit}

/-! ### Names -/

namespace Syntax

variable {text unitName : String} {language : Option String}

/-- What a parser makes of a text never rejects it: it gives a tree, or stops the run. -/
theorem treeOf_cases (parsed : Parsed) (text unitName : String) :
    (∃ tree, treeOf parsed text unitName = .ok tree ∧ tree.unitName = unitName) ∨
      ∃ halt, treeOf parsed text unitName = .error (.halted halt) := by
  unfold treeOf
  dsimp only
  split
  · exact .inr ⟨_, rfl⟩
  · exact .inl ⟨_, rfl, rfl⟩

/-- **Only a text that is not balanced is rejected**, whatever the parser. -/
theorem readText_rejected_iff : readText parser text unitName = .error (.rejected r) ↔
    checkBalance text unitName = .error r := by
  unfold readText
  cases checkBalance text unitName with
  | error => simp
  | ok =>
    cases Text.encodingFault? text with
    | some => simp
    | none =>
      rcases treeOf_cases (parser.parse text) text unitName with ⟨_, h, -⟩ | ⟨_, h⟩ <;> simp [h]

theorem unitName_of_readSource (h : readSource parser text unitName language = .ok tree) :
    tree.unitName = unitName := by
  unfold readSource readText at h
  dsimp only at h
  split at h
  · split at h
    · cases h
    · split at h
      · cases h
      · rcases treeOf_cases (parser.parse text) text unitName with ⟨_, htree, hname⟩ | ⟨_, hhalt⟩
        · rw [htree] at h
          cases h
          exact hname
        · rw [hhalt] at h
          cases h
  · cases h

theorem unitName_of_readSource_rejected
    (h : readSource parser text unitName language = .error (.rejected r)) :
    r.unitName = unitName := by
  unfold readSource at h
  dsimp only at h
  split at h
  · rw [readText_rejected_iff, checkBalance] at h
    cases hfault : imbalance? text.toList with
    | some =>
      rw [hfault] at h
      cases h
      rfl
    | none =>
      rw [hfault] at h
      cases h
  · cases h

end Syntax

namespace Extraction

open Syntax

theorem unitName_of_readClass {decl : ClassDecl} {primary : Nat} {context : Context} {s s' : State}
    (h : (readClass tree decl primary).runFrom context s = (.ok u, s')) :
    u.unitName = tree.unitName := by
  obtain ⟨_, _, -, h⟩ := exists_of_runFrom_bind h
  obtain ⟨_, _, -, h⟩ := exists_of_runFrom_bind h
  obtain ⟨_, _, -, h⟩ := exists_of_runFrom_bind h
  cases h
  rfl

theorem unitName_of_extract (h : extract tree = .ok u) : u.unitName = tree.unitName := by
  unfold extract at h
  split at h
  · dsimp only at h
    split at h
    · rename_i hrun
      cases h
      exact unitName_of_readClass (s := {}) hrun
    · cases h
    · cases h
  · cases h

theorem unitName_of_extract_rejected (h : extract tree = .error (.rejected r)) :
    r.unitName = tree.unitName := by
  unfold extract at h
  split at h
  · dsimp only at h
    split at h
    · cases h
    · cases h
    · cases h
  · cases h
    rfl

end Extraction

namespace Conversion

open Syntax Rendering

variable {intake : Intake} {sources : List (String × String)}

/-! ### One source -/

/-- A source that does not stop the run: it becomes a unit or is rejected. -/
def Readable (parser : Parser) (source : String × String) : Prop :=
  ∀ halt, readOne parser source ≠ .error (.halted halt)

/-- The unit of a source that has one. -/
def unit? (parser : Parser) (source : String × String) : Option SourceUnit :=
  (readOne parser source).toOption

/-- The name of a source that is rejected, with the reason. -/
def rejection? (parser : Parser) (source : String × String) : Option (String × Rejection) :=
  under source.1 (readOne parser source)
where
  under (name : String) : Except Problem SourceUnit → Option (String × Rejection)
    | .error (.rejected r) => some (name, r)
    | .error (.halted _) | .ok _ => none

theorem rejected_of_under {name : String} {reading : Except Problem SourceUnit}
    {entry : String × Rejection} (h : rejection?.under name reading = some entry) :
    entry.1 = name ∧ reading = .error (.rejected entry.2) := by
  rcases reading with (r | _) | u
  · cases h
    exact ⟨rfl, rfl⟩
  · cases h
  · cases h

section One

variable {source : String × String}

theorem unitName_of_readOne (h : readOne parser source = .ok u) : u.unitName = source.1 := by
  obtain ⟨_, htree, h⟩ := bind_eq_ok_iff.mp h
  exact (Extraction.unitName_of_extract h).trans (unitName_of_readSource htree)

theorem unitName_of_rejected (h : readOne parser source = .error (.rejected r)) :
    r.unitName = source.1 := by
  unfold readOne at h
  cases htree : readSource parser source.2 source.1 none with
  | error =>
    rw [htree] at h
    cases h
    exact unitName_of_readSource_rejected htree
  | ok =>
    rw [htree] at h
    exact (Extraction.unitName_of_extract_rejected h).trans (unitName_of_readSource htree)

theorem own_of_rejection? {entry : String × Rejection} (h : rejection? parser source = some entry) :
    entry.2.unitName = entry.1 := by
  obtain ⟨hname, hread⟩ := rejected_of_under h
  rw [hname, unitName_of_rejected hread]

theorem readable_cases (h : Readable parser source) :
    (∃ u, readOne parser source = .ok u) ∨ ∃ r, readOne parser source = .error (.rejected r) := by
  rcases hread : readOne parser source with (r | halt) | u
  · exact .inr ⟨r, rfl⟩
  · exact absurd hread (h halt)
  · exact .inl ⟨u, rfl⟩

theorem exists_unit_of_isSome (h : (unit? parser source).isSome) :
    ∃ u, readOne parser source = .ok u := by
  rw [unit?] at h
  rcases hread : readOne parser source with _ | u
  · rw [hread] at h
    cases h
  · exact ⟨u, rfl⟩

theorem exists_rejected_of_isSome (h : (rejection? parser source).isSome) :
    ∃ r, readOne parser source = .error (.rejected r) := by
  rw [rejection?] at h
  rcases hread : readOne parser source with (r | _) | u
  · exact ⟨r, rfl⟩
  · rw [hread] at h
    cases h
  · rw [hread] at h
    cases h

theorem readNext_of_ok (intake : Intake) (h : readOne parser source = .ok u) :
    readNext parser intake source = .ok { intake with units := intake.units ++ [u] } := by
  unfold readNext
  rw [h]

theorem readNext_of_rejected (intake : Intake) (h : readOne parser source = .error (.rejected r)) :
    readNext parser intake source =
      .ok { intake with rejected := Table.put source.1 r intake.rejected } := by
  unfold readNext
  rw [h]

theorem readNext_of_halted (intake : Intake) {halt : Halt}
    (h : readOne parser source = .error (.halted halt)) :
    readNext parser intake source = .error halt := by
  unfold readNext
  rw [h]

theorem readable_of_readNext {next : Intake} (h : readNext parser intake source = .ok next) :
    Readable parser source := by
  intro _ hread
  rw [readNext_of_halted intake hread] at h
  cases h

theorem readNext_of_readable (h : Readable parser source) (hnew : source.1 ∉ intake.rejected.keys) :
    readNext parser intake source = .ok
      { units := intake.units ++ (unit? parser source).toList
        rejected := intake.rejected ++ (rejection? parser source).toList } := by
  rcases readable_cases h with ⟨u, hread⟩ | ⟨r, hread⟩
  · rw [readNext_of_ok intake hread, unit?, rejection?, hread]
    simp [Except.toOption, rejection?.under]
  · rw [readNext_of_rejected intake hread, Table.put_of_not_mem hnew, unit?, rejection?, hread]
    simp [Except.toOption, rejection?.under]

end One

/-! ### All sources -/

/-- What has been read from some sources. -/
def intakeOf (parser : Parser) (sources : List (String × String)) : Intake where
  units := sources.filterMap (unit? parser)
  rejected := sources.filterMap (rejection? parser)

theorem intakeOf_append (parser : Parser) (sources : List (String × String))
    (source : String × String) :
    intakeOf parser (sources ++ [source]) =
      { units := (intakeOf parser sources).units ++ (unit? parser source).toList
        rejected := (intakeOf parser sources).rejected ++ (rejection? parser source).toList } := by
  simp only [intakeOf, List.filterMap_append, List.filterMap_cons]
  cases unit? parser source <;> cases rejection? parser source <;> rfl

theorem mem_keys_rejected {name : String}
    (h : name ∈ (intakeOf parser sources).rejected.keys) : name ∈ sources.map Prod.fst := by
  simp only [intakeOf, Table.keys, List.mem_map, List.mem_filterMap] at h
  obtain ⟨_, ⟨_, hsource, hentry⟩, rfl⟩ := h
  rw [(rejected_of_under hentry).1]
  exact List.mem_map_of_mem hsource

/-- **Sources of different names are read one by one**, whatever has been read before. -/
theorem foldlM_readNext_eq_ok_iff {sources : List (String × String)}
    (hnames : (sources.map Prod.fst).Nodup) {intake : Intake} :
    sources.foldlM (readNext parser) {} = .ok intake ↔
      (∀ source ∈ sources, Readable parser source) ∧ intake = intakeOf parser sources := by
  induction sources using List.reverseRecOn generalizing intake with
  | nil => simp [intakeOf, Except.pure, pure, eq_comm]
  | append_singleton sources source ih =>
    rw [List.map_append, List.nodup_append] at hnames
    have ih := @ih hnames.1
    have hnew : source.1 ∉ (intakeOf parser sources).rejected.keys := fun hmem =>
      hnames.2.2 _ (mem_keys_rejected hmem) _ (List.mem_singleton.mpr rfl) rfl
    rw [List.foldlM_append, intakeOf_append]
    simp only [List.foldlM_cons, List.foldlM_nil, bind_pure]
    rw [bind_eq_ok_iff, List.forall_mem_append, List.forall_mem_singleton]
    constructor
    · rintro ⟨_, hfirst, h⟩
      obtain ⟨hread, rfl⟩ := ih.mp hfirst
      have hlast := readable_of_readNext h
      rw [readNext_of_readable hlast hnew] at h
      exact ⟨⟨hread, hlast⟩, (Except.ok.inj h).symm⟩
    · rintro ⟨⟨hread, hlast⟩, rfl⟩
      exact ⟨_, ih.mpr ⟨hread, rfl⟩, readNext_of_readable hlast hnew⟩

/-- **Each source has become a unit or been rejected**, and none is both. -/
theorem names_intakeOf_perm (h : ∀ source ∈ sources, Readable parser source) :
    ((intakeOf parser sources).units.map SourceUnit.unitName ++
      (intakeOf parser sources).rejected.keys).Perm (sources.map Prod.fst) := by
  induction sources with
  | nil => exact List.Perm.refl _
  | cons source _ ih =>
    have ih := ih fun x hx => h x (List.mem_cons_of_mem _ hx)
    rcases readable_cases (h source List.mem_cons_self) with ⟨u, hread⟩ | ⟨r, hread⟩
    · have hunit : unit? parser source = some u := by rw [unit?, hread]; rfl
      have hrejection : rejection? parser source = none := by rw [rejection?, hread]; rfl
      simp only [intakeOf, List.filterMap_cons, hunit, hrejection, List.map_cons,
        unitName_of_readOne hread]
      exact ih.cons _
    · have hunit : unit? parser source = none := by rw [unit?, hread]; rfl
      have hrejection : rejection? parser source = some (source.1, r) := by
        rw [rejection?, hread]; rfl
      simp only [intakeOf, List.filterMap_cons, hunit, hrejection]
      exact List.perm_middle.trans (ih.cons _)

/-- **A run reports on what has been read from each source**, if none of them stops it. -/
theorem convert_eq_ok_iff (hnames : (sources.map Prod.fst).Nodup) {p : Profile}
    {strategy : Option DelegateStrategy} {report : Report} :
    convert parser sources p strategy = .ok report ↔
      (∀ source ∈ sources, Readable parser source) ∧
        finish p strategy (intakeOf parser sources) = .ok report := by
  rw [convert, bind_eq_ok_iff]
  constructor
  · rintro ⟨_, hread, h⟩
    obtain ⟨hreadable, rfl⟩ := (foldlM_readNext_eq_ok_iff hnames).mp hread
    exact ⟨hreadable, h⟩
  · rintro ⟨hreadable, h⟩
    exact ⟨_, (foldlM_readNext_eq_ok_iff hnames).mpr ⟨hreadable, rfl⟩, h⟩

end Conversion

end TestMigration
