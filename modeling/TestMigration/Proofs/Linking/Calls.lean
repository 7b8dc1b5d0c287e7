import TestMigration.Linking.Link
import TestMigration.Proofs.Tables
/-!
# What linking finds out about the calls

Linking goes through the calls of all units and collects issues, warnings about calls that leave the
project, and the methods that the other calls lead to. Each call is read on its own (`readCall`), so
what is collected is a matter of lists (`resolves_of_no_issue`): if there are no issues in the end,
no call is faulty, the warnings are those of the demoted calls in their order, and the table of
methods is written from the linked ones.
-/

namespace TestMigration.Linking

open TestMigration.Action Text

variable {p : Project} {failed : Table String String}

/-! ### The run of linking -/

/-- What linking has established before it looks for circles. -/
def linksOf (units : List SourceUnit) (failed : List String) : Links :=
  resolveCalls (Project.ofUnits units) (failedNames failed)
    { issues := (Project.ofUnits units).superclasses.2 }

/-- The model that linking gives if there are no issues. -/
def linkedModel (units : List SourceUnit) (failed : List String) : Model :=
  let links := linksOf units failed
  { units := (Project.ofUnits units).units.map (demoteUnit links.demoted.contains)
    resolutions := links.resolutions
    superclasses := (Project.ofUnits units).superclasses.1
    diagnostics := links.diagnostics }

theorem link_eq (units : List SourceUnit) (failed : List String) : link units failed =
      let links := linksOf units failed
      let issues := if links.issues.isEmpty then
        cycleIssues (Project.ofUnits units) links.resolutions else links.issues
      if issues.isEmpty then .ok (linkedModel units failed) else .error issues := rfl

theorem link_eq_ok_iff {units : List SourceUnit} {failed : List String} {m : Model} :
    link units failed = .ok m ↔ (linksOf units failed).issues = [] ∧
      cycleIssues (Project.ofUnits units) (linksOf units failed).resolutions = [] ∧
      m = linkedModel units failed := by
  rw [link_eq]
  by_cases hissues : (linksOf units failed).issues = []
  · by_cases hcycles : cycleIssues (Project.ofUnits units) (linksOf units failed).resolutions = []
    · simp [hissues, hcycles, eq_comm]
    · simp [hissues, hcycles]
  · simp [hissues]

/-! ### One call -/

/-- What a call turns out to be. -/
inductive CallReading where
  | linked (key : MethodKey)
  | demoted
  | faulty (issues : List Issue)

/-- What linking makes of one call. -/
def readCall (p : Project) (failed : Table String String) (u : SourceUnit) (call : Call)
    (line : Nat) : CallReading :=
  match p.resolveType call.targetType u with
  | .ambiguous candidates => .faulty [Project.ambiguity call.targetType u line candidates]
  | .missing =>
    match Table.get? (afterLast '.' call.targetType) failed with
    | some unitName =>
      .faulty [{
        unitName := u.unitName, line
        cause := .unread call.sourceText call.targetType unitName }]
    | none => .demoted
  | .found target =>
    match p.resolveMethod target call u line with
    | (some key, _) => .linked key
    | (none, issues) => .faulty issues

theorem methodFrom_cases (p : Project) (call : Call) (caller : SourceUnit) (line : Nat)
    (target : String) (n : Nat) (seen : List String) (u : Option SourceUnit) :
    (∃ key, p.methodFrom call caller line target n seen u = (some key, [])) ∨
      ∃ issue issues, p.methodFrom call caller line target n seen u = (none, issue :: issues) := by
  induction n generalizing seen u with
  | zero => exact .inr ⟨_, _, by rw [Project.methodFrom]⟩
  | succ n ih =>
    cases u with
    | none => exact .inr ⟨_, _, by rw [Project.methodFrom]; simp⟩
    | some u =>
      rw [Project.methodFrom]
      split
      · exact .inr ⟨_, _, rfl⟩
      · split
        · exact .inl ⟨_, rfl⟩
        · -- An ambiguous superclass gives no unit, and then there is no method either.
          have hparent : (p.superclass? u).2 = [] ∨ (p.superclass? u).1 = none := by
            rw [Project.superclass?]
            split
            · exact .inl rfl
            · rw [Project.typeWithIssue]
              split
              · exact .inl rfl
              · exact .inl rfl
              · exact .inr rfl
          rcases hsuper : p.superclass? u with ⟨parent, issues⟩
          rw [hsuper] at hparent
          rcases hparent with rfl | rfl
          · rcases ih (u.unitName :: seen) parent with ⟨key, hkey⟩ | ⟨issue, issues, hissues⟩
            · exact .inl ⟨key, by simp [hkey]⟩
            · exact .inr ⟨issue, issues, by simp [hissues]⟩
          · rcases ih (u.unitName :: seen) none with ⟨key, hkey⟩ | ⟨issue, more, hmore⟩
            · cases n <;> simp [Project.methodFrom] at hkey
            · cases issues with
              | nil => exact .inr ⟨issue, more, by simp [hmore]⟩
              | cons first rest => exact .inr ⟨first, rest ++ issue :: more, by simp [hmore]⟩
        · exact .inr ⟨_, _, rfl⟩

theorem resolveCall_eq (p : Project) (failed : Table String String) (u : SourceUnit)
    (links : Links) (call : Call) (line : Nat) : resolveCall p failed u links (call, line) =
      match readCall p failed u call line with
      | .linked key => { links with resolutions := Table.put call.id key links.resolutions }
      | .demoted => { links with
          demoted := links.demoted ++ [call.id]
          diagnostics := links.diagnostics ++ [demotionWarning u call line] }
      | .faulty issues => { links with issues := links.issues ++ issues } := by
  rw [resolveCall, readCall]
  cases p.resolveType call.targetType u with
  | ambiguous => rfl
  | missing => cases Table.get? (afterLast '.' call.targetType) failed <;> rfl
  | found target =>
    rcases methodFrom_cases p call u line target.simpleName (p.units.length + 1) [] (some target)
      with ⟨key, hkey⟩ | ⟨issue, issues, hissues⟩
    · simp [Project.resolveMethod, hkey]
    · simp [Project.resolveMethod, hissues]

theorem readCall_faulty_ne_nil {u : SourceUnit} {call : Call} {line : Nat} {issues : List Issue}
    (h : readCall p failed u call line = .faulty issues) : issues ≠ [] := by
  rw [readCall] at h
  cases htype : p.resolveType call.targetType u with
  | ambiguous =>
    rw [htype] at h
    cases h
    simp
  | missing =>
    rw [htype] at h
    cases hfailed : Table.get? (afterLast '.' call.targetType) failed with
    | none => simp [hfailed] at h
    | some =>
      rw [hfailed] at h
      cases h
      simp
  | found target =>
    rw [htype] at h
    rcases methodFrom_cases p call u line target.simpleName (p.units.length + 1) [] (some target)
      with ⟨key, hkey⟩ | ⟨issue, more, hmore⟩
    · simp [Project.resolveMethod, hkey] at h
    · simp only [Project.resolveMethod, hmore] at h
      cases h
      simp

/-! ### All calls -/

/-- A call with its unit and the line of its action. -/
structure Occurrence where
  unit : SourceUnit
  call : Call
  line : Nat

/-- The calls of a project, in the order in which they are resolved. -/
def occurrences (p : Project) : List Occurrence :=
  p.units.flatMap fun u => (unitCalls u).map fun entry => ⟨u, entry.1, entry.2⟩

namespace Occurrence

def read (p : Project) (failed : Table String String) (o : Occurrence) : CallReading :=
  readCall p failed o.unit o.call o.line

def isDemoted (p : Project) (failed : Table String String) (o : Occurrence) : Bool :=
  match o.read p failed with
  | .demoted => true
  | _ => false

def row? (p : Project) (failed : Table String String) (o : Occurrence) :
    Option (String × MethodKey) :=
  match o.read p failed with
  | .linked key => some (o.call.id, key)
  | _ => none

theorem row?_eq_some_iff {o : Occurrence} {id : String}
    {key : MethodKey} :
    o.row? p failed = some (id, key) ↔ o.call.id = id ∧ o.read p failed = .linked key := by
  rw [row?]
  cases o.read p failed <;> simp

def warning (o : Occurrence) : Diagnostic := demotionWarning o.unit o.call o.line

end Occurrence

theorem resolveCalls_eq (p : Project) (failed : Table String String) (links : Links) :
    resolveCalls p failed links = (occurrences p).foldl
      (fun links o => resolveCall p failed o.unit links (o.call, o.line)) links := by
  rw [resolveCalls, occurrences, List.foldl_flatMap]
  simp [List.foldl_map]

/-- What calls without issues add to the links. -/
structure Resolves (p : Project) (failed : Table String String) (os : List Occurrence)
    (links : Links) (final : Links) : Prop where
  start : links.issues = []
  faultless : ∀ o ∈ os, ∀ issues, o.read p failed ≠ .faulty issues
  demoted : final.demoted =
    links.demoted ++ (os.filter (Occurrence.isDemoted p failed)).map (·.call.id)
  diagnostics : final.diagnostics =
    links.diagnostics ++ (os.filter (Occurrence.isDemoted p failed)).map Occurrence.warning
  resolutions : final.resolutions =
    Table.merge links.resolutions (os.filterMap (Occurrence.row? p failed))

/-- **If there is no issue in the end, no call was faulty**, and what was collected are the warnings
of the demoted calls and the methods of the others, in order. -/
theorem resolves_of_no_issue (os : List Occurrence)
    (links : Links)
    (h : (os.foldl (fun links o => resolveCall p failed o.unit links (o.call, o.line))
      links).issues = []) : Resolves p failed os links
      (os.foldl (fun links o => resolveCall p failed o.unit links (o.call, o.line)) links) := by
  induction os generalizing links with
  | nil => exact ⟨h, by simp, by simp, by simp, by simp [Table.merge]⟩
  | cons o _ ih =>
    rw [List.foldl_cons] at h ⊢
    have hrest := ih _ h
    rw [resolveCall_eq] at hrest h ⊢
    cases hread : readCall p failed o.unit o.call o.line with
    | linked | demoted =>
      -- A call without a fault adds a row or a warning, and nothing else.
      have hread' : o.read p failed = _ := hread
      rw [hread] at hrest
      refine ⟨hrest.start, ?_, ?_, ?_, ?_⟩
      · rintro o' ho' issues
        rcases List.mem_cons.mp ho' with rfl | ho'
        · simp [hread']
        · exact hrest.faultless o' ho' issues
      · simpa [Occurrence.isDemoted, hread'] using hrest.demoted
      · simpa [Occurrence.isDemoted, Occurrence.warning, hread'] using hrest.diagnostics
      · simpa [Occurrence.row?, hread', Table.merge] using hrest.resolutions
    | faulty issues =>
      rw [hread] at hrest
      have hnil : links.issues ++ issues = [] := hrest.start
      exact absurd (List.append_eq_nil_iff.mp hnil).2 (readCall_faulty_ne_nil hread)

end TestMigration.Linking
