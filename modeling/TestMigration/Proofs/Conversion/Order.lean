import Mathlib.Logic.Relation
import TestMigration.Profile.Builtin
import TestMigration.Proofs.Conversion.Reading
/-!
# The order in which sources are read

Sources are read by a pool of workers. A worker takes the next waiting source, and the sources being
read are done in any order; what comes of each is then added to the intake (`Pool.Step`). The number
of workers bounds how many sources are read at once, and nothing else.

At any time the intake is what the finished sources give if read one after another, in the order in
which they were done (`Pool.Follows`). Nothing read depends on what was read before, and the intake
is sorted by names before it is used, so a run of the pool ends with one report (`report_of_done`).
A pool whose sources can all be read never gets stuck (`Pool.Follows.exists_step`).
-/

namespace TestMigration.Conversion

/-! ### Sorted intakes -/

theorem sorted_intakeOf_eq_of_perm {parser : Syntax.Parser}
    {sources sources' : List (String × String)}
    (hperm : sources'.Perm sources) (hnames : (sources.map Prod.fst).Nodup)
    (hread : ∀ source ∈ sources, Readable parser source) :
    (intakeOf parser sources').sorted = (intakeOf parser sources).sorted := by
  have hread' : ∀ source ∈ sources', Readable parser source := fun source hsource =>
    hread source (hperm.mem_iff.mp hsource)
  have hnodup :=
    (names_intakeOf_perm hread').nodup_iff.mpr ((hperm.map Prod.fst).nodup_iff.mpr hnames)
  rw [List.nodup_append] at hnodup
  have hunits := sortBy_eq_of_perm SourceUnit.unitName (hperm.filterMap (unit? parser)) hnodup.1
  have hrejected := sortBy_eq_of_perm Prod.fst (hperm.filterMap (rejection? parser)) hnodup.2.1
  simp only [Intake.sorted, intakeOf, hunits, hrejected]

/-! ### The pool -/

/-- The sources that wait, those being read, and what has been read. -/
structure Pool where
  waiting : List (String × String)
  running : List (String × String) := []
  intake : Intake := {}

namespace Pool

/-- A worker takes the next source, or is done with one. -/
inductive Step (parser : Syntax.Parser) (workers : Nat) : Pool → Pool → Prop where
  | take {source : String × String} {waiting running : List (String × String)} {intake : Intake}
      (hfree : running.length < workers) :
      Step parser workers ⟨source :: waiting, running, intake⟩
        ⟨waiting, running ++ [source], intake⟩
  | done {source : String × String} {waiting before after : List (String × String)}
      {intake next : Intake} (hread : readNext parser intake source = .ok next) :
      Step parser workers ⟨waiting, before ++ source :: after, intake⟩
        ⟨waiting, before ++ after, next⟩

/-- Steps lead from one pool to another. -/
def Reaches (parser : Syntax.Parser) (workers : Nat) : Pool → Pool → Prop :=
  Relation.ReflTransGen (Step parser workers)

/-- Nothing waits and nobody works. -/
def Done (pool : Pool) : Prop := pool.waiting = [] ∧ pool.running = []

/-- How far a pool is from its end: a source that waits takes two steps. -/
def steps (pool : Pool) : Nat := 2 * pool.waiting.length + pool.running.length

/-- The intake is what the sources no longer in the pool give. -/
def Follows (parser : Syntax.Parser) (sources : List (String × String)) (pool : Pool) : Prop :=
  ∃ read, read.foldlM (readNext parser) {} = .ok pool.intake ∧
    (read ++ (pool.running ++ pool.waiting)).Perm sources

variable {parser : Syntax.Parser} {workers : Nat} {sources : List (String × String)}
  {pool next : Pool}

theorem Step.steps_eq (h : Step parser workers pool next) : pool.steps = next.steps + 1 := by
  cases h with
  | take => simp [steps]; omega
  | done => simp [steps]; omega

theorem Follows.start {sources' : List (String × String)} (h : sources'.Perm sources) :
    Follows parser sources { waiting := sources' } := ⟨[], rfl, h⟩

theorem Follows.step (h : Follows parser sources pool) (hstep : Step parser workers pool next) :
    Follows parser sources next := by
  obtain ⟨read, hread, hperm⟩ := h
  cases hstep with
  | take =>
    exact ⟨read, hread, by simpa using hperm⟩
  | done hnext =>
    rename_i source waiting before after intake next
    refine ⟨read ++ [source], ?_, List.Perm.trans ?_ hperm⟩
    · rw [List.foldlM_append, hread]
      simp only [List.foldlM_cons, List.foldlM_nil, bind_pure]
      simp only [bind, Except.bind]
      exact hnext
    · simp only [List.append_assoc, List.cons_append, List.nil_append]
      exact (List.perm_middle.symm).append_left read

theorem Follows.of_reaches (h : Follows parser sources pool)
    (hreaches : Reaches parser workers pool next) :
    Follows parser sources next := by
  induction hreaches with
  | refl => exact h
  | tail _ hstep ih => exact ih.step hstep

/-- **A pool does not get stuck**, unless a source stops the run. -/
theorem Follows.exists_step (h : Follows parser sources pool) (hworkers : 0 < workers)
    (hreadable : ∀ source ∈ sources, Readable parser source) (hpending : ¬pool.Done) :
    ∃ next, Step parser workers pool next := by
  obtain ⟨_, _, hperm⟩ := h
  obtain ⟨waiting, running, intake⟩ := pool
  cases running with
  | cons source rest =>
    -- The first of the sources that are being read can be done.
    have hsource : source ∈ sources := hperm.mem_iff.mp (by simp)
    rcases readable_cases (hreadable source hsource) with ⟨u, hu⟩ | ⟨r, hr⟩
    · exact ⟨_, @Step.done parser workers source waiting [] rest intake _
        (readNext_of_ok intake hu)⟩
    · exact ⟨_, @Step.done parser workers source waiting [] rest intake _
        (readNext_of_rejected intake hr)⟩
  | nil =>
    cases waiting with
    | cons source rest => exact ⟨_, .take hworkers⟩
    | nil => exact absurd ⟨rfl, rfl⟩ hpending

theorem Follows.exists_done (h : Follows parser sources pool) (hworkers : 0 < workers)
    (hreadable : ∀ source ∈ sources, Readable parser source) :
    ∃ next, Reaches parser workers pool next ∧ next.Done := by
  induction hsteps : pool.steps generalizing pool with
  | zero =>
    refine ⟨pool, .refl, ?_⟩
    by_contra hpending
    obtain ⟨next, hstep⟩ := h.exists_step hworkers hreadable hpending
    have := hstep.steps_eq
    omega
  | succ n ih =>
    by_cases hdone : pool.Done
    · exact ⟨pool, .refl, hdone⟩
    · obtain ⟨next, hstep⟩ := h.exists_step hworkers hreadable hdone
      obtain ⟨final, hreaches, hfinal⟩ := ih (h.step hstep) (by have := hstep.steps_eq; omega)
      exact ⟨final, .head hstep hreaches, hfinal⟩

theorem Follows.intake_of_done (h : Follows parser sources pool)
    (hnames : (sources.map Prod.fst).Nodup)
    (hdone : pool.Done) : (∀ source ∈ sources, Readable parser source) ∧
      ∃ read, read.Perm sources ∧ pool.intake = intakeOf parser read := by
  obtain ⟨read, hread, hperm⟩ := h
  rw [hdone.1, hdone.2, List.append_nil, List.append_nil] at hperm
  obtain ⟨hreadable, hintake⟩ :=
    (foldlM_readNext_eq_ok_iff ((hperm.map Prod.fst).nodup_iff.mpr hnames)).mp hread
  exact ⟨fun source hsource => hreadable source (hperm.mem_iff.mpr hsource), read, hperm, hintake⟩

/-- **However a pool comes to its end, it is the same report.** -/
theorem Follows.convert_eq_ok_iff (h : Follows parser sources pool)
    (hnames : (sources.map Prod.fst).Nodup)
    (hdone : pool.Done) {p : Profile} {strategy : Option DelegateStrategy} {report : Report} :
    convert parser sources p strategy = .ok report ↔
      finish p strategy pool.intake = .ok report := by
  obtain ⟨hreadable, _, hperm, hintake⟩ := h.intake_of_done hnames hdone
  rw [Conversion.convert_eq_ok_iff hnames, and_iff_right hreadable, hintake, finish, finish,
    sorted_intakeOf_eq_of_perm hperm hnames hreadable]

end Pool

/-! ### The main result -/

/-- **Neither the order of the sources nor that of the workers shows in the report.** There is a
report exactly if each run, of however many workers, can be brought to its end, and all of them end
with it. -/
theorem report_independent_of_order (parser : Syntax.Parser)
    {sources sources' : List (String × String)}
    (hnames : (sources.map Prod.fst).Nodup) (hperm : sources'.Perm sources) (workers : Nat)
    (hworkers : 0 < workers) (p : Profile) (strategy : Option DelegateStrategy) (report : Report) :
    (convert parser sources' p strategy = .ok report ↔
      convert parser sources p strategy = .ok report) ∧
      (convert parser sources p strategy = .ok report ↔
        ∀ pool, Pool.Reaches parser workers { waiting := sources' } pool →
          (∃ final, pool.Reaches parser workers final ∧ final.Done) ∧
          (pool.Done → finish p strategy pool.intake = .ok report)) := by
  have hnames' := (hperm.map Prod.fst).nodup_iff.mpr hnames
  have hstart : Pool.Follows parser sources { waiting := sources' } := .start hperm
  refine ⟨?_, fun h pool hreaches => ⟨?_, fun hdone => ?_⟩, fun h => ?_⟩
  · rw [convert_eq_ok_iff hnames, convert_eq_ok_iff hnames']
    have hsame : (∀ source ∈ sources', Readable parser source) ↔
        ∀ source ∈ sources, Readable parser source :=
      forall_congr' fun source => imp_congr_left hperm.mem_iff
    rw [hsame, finish, finish]
    refine and_congr_right fun hreadable => ?_
    rw [sorted_intakeOf_eq_of_perm hperm hnames hreadable]
  · obtain ⟨hreadable, -⟩ := (convert_eq_ok_iff hnames).mp h
    exact (hstart.of_reaches hreaches).exists_done hworkers hreadable
  · exact ((hstart.of_reaches hreaches).convert_eq_ok_iff hnames hdone).mp h
  · obtain ⟨⟨final, hreaches, hdone⟩, -⟩ := h _ .refl
    exact ((hstart.of_reaches hreaches).convert_eq_ok_iff hnames hdone).mpr
      ((h final hreaches).2 hdone)

/-! ### A run of three sources -/

/-- The tokens of words with a blank after each, the first of them behind so many characters. -/
def wordTokens (start : Nat) : List String → List Syntax.Token
  | [] => []
  | w :: rest =>
    let stop := start + w.length
    { kind := .word, text := w, extent := ⟨⟨start, 1, start + 1⟩, ⟨stop, 1, stop + 1⟩⟩ }
      :: wordTokens (stop + 1) rest

/-- A parser of words. The text is a class with the second word as its name; if there are more than
four words, it has a method with the fourth word as its name, which returns the ninth. -/
def wordParser : Syntax.Parser where
  parse text :=
    let ws := Text.words text
    let leaf (label : Syntax.Label) (n : Nat) : Syntax.Node := .mk label n (n + 1) []
    let name (n : Nat) : Option Syntax.Role × Syntax.Node := (some .name, leaf (.terminal .name) n)
    let result : Syntax.Node :=
      .mk (.kind .returnStatement) 7 9 [(none, leaf (.terminal (.fixed (ws.getD 8 ""))) 8)]
    let method : Syntax.Node := .mk (.kind .methodDeclaration) 3 10
      [name 3, (some .body, .mk (.kind .block) 6 10 [(none, result)])]
    let members := if ws.length ≤ 4 then [] else [(none, method)]
    let unit : Syntax.Node := .mk (.kind .classDeclaration) 0 ws.length
      [name 1, (some .body, .mk (.kind .classBody) 2 ws.length members)]
    { tokens := (wordTokens 0 ws).toArray
      root := .mk (.kind .program) 0 ws.length [(none, unit)] }

def plainSource : String × String := ("A.java", "class A { }")

/-- A source that is read and then refused: outside of an object there is no `this`. -/
def strandedSource : String × String := ("B.java", "class B { f ( ) { return this } }")

def brokenSource : String × String := ("C.java", ")")

/-- Three sources: one is converted, one is refused, and one is rejected. -/
def mixedSources : List (String × String) := [plainSource, strandedSource, brokenSource]

theorem exists_of_map_eq_ok {ε α β : Type} {x : Except ε α} {f : α → β} {b : β}
    (h : x.map f = .ok b) : ∃ a, x = .ok a ∧ f a = b := by
  cases x with
  | error e => cases h
  | ok a => exact ⟨a, rfl, Except.ok.inj h⟩

theorem exists_report_mixedSources : ∃ report,
    convert wordParser mixedSources Profile.playwrightTs none = .ok report ∧
      (report.converted, report.failed.keys, report.status) =
        (["A.java"], ["C.java", "B.java"], .mixed) := exists_of_map_eq_ok (by decide +kernel)

/-- The second source is done first, and the first one last. -/
theorem exists_run_mixedSources : ∃ intake,
    Pool.Reaches wordParser 2 { waiting := mixedSources } ⟨[], [], intake⟩ ∧
      intake.units.map SourceUnit.unitName = ["B.java", "A.java"] ∧
      intake.rejected.keys = ["C.java"] := by
  obtain ⟨a, ha⟩ : ∃ u, readOne wordParser plainSource = .ok u :=
    exists_unit_of_isSome (by decide +kernel)
  obtain ⟨b, hb⟩ : ∃ u, readOne wordParser strandedSource = .ok u :=
    exists_unit_of_isSome (by decide +kernel)
  obtain ⟨r, hr⟩ : ∃ r, readOne wordParser brokenSource = .error (.rejected r) :=
    exists_rejected_of_isSome (by decide +kernel)
  have hsecond := @Pool.Step.done wordParser 2 _ [brokenSource] [plainSource] [] {} _
    (readNext_of_ok {} hb)
  have hthird := @Pool.Step.done wordParser 2 _ [] [plainSource] [] _ _
    (readNext_of_rejected { units := [b] } hr)
  have hfirst := @Pool.Step.done wordParser 2 _ [] [] [] _ _
    (readNext_of_ok { units := [b], rejected := [("C.java", r)] } ha)
  refine ⟨_, .head (.take (by decide)) (.head (.take (by decide)) (.head hsecond
    (.head (.take (by decide)) (.head hthird (.single hfirst))))), ?_, rfl⟩
  simp [unitName_of_readOne ha, unitName_of_readOne hb, plainSource, strandedSource]

theorem report_independent_of_order_mixedSources : ∃ report intake,
    (mixedSources.reverse.map Prod.fst).Nodup ∧ mixedSources.Perm mixedSources.reverse ∧ 0 < 2 ∧
      convert wordParser mixedSources.reverse Profile.playwrightTs none = .ok report ∧
      (report.converted, report.failed.keys, report.status) =
        (["A.java"], ["C.java", "B.java"], .mixed) ∧
      Pool.Reaches wordParser 2 { waiting := mixedSources } ⟨[], [], intake⟩ ∧
      intake.units.map SourceUnit.unitName = ["B.java", "A.java"] ∧
      finish Profile.playwrightTs none intake = .ok report := by
  obtain ⟨report, hrun, hreport⟩ := exists_report_mixedSources
  obtain ⟨intake, hreaches, hunits, -⟩ := exists_run_mixedSources
  have hnames : (mixedSources.reverse.map Prod.fst).Nodup := by decide
  have hperm : mixedSources.Perm mixedSources.reverse := (List.reverse_perm _).symm
  obtain ⟨hsame, hpool⟩ := report_independent_of_order wordParser hnames hperm 2 (by decide)
    Profile.playwrightTs none report
  have hrun := hsame.mp hrun
  exact ⟨report, intake, hnames, hperm, by decide, hrun, hreport, hreaches, hunits,
    (hpool.mp hrun _ hreaches).2 ⟨rfl, rfl⟩⟩

end TestMigration.Conversion
