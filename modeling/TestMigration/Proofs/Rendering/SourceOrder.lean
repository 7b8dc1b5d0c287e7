import TestMigration.Proofs.Rendering.UnitFragments
/-!
# The check of the order

The last check of a finished file looks at the fragments of each body: they have to occur in the
text one behind the other, and the source lines they stand for must never go back. A file is put
together in the order of its trace, so only a fragment with a line break may be missing, because its
lines have been indented apart. The second half depends on the source alone, and on what is spliced
into a body (`sourceLines`).

So for a rendered unit the check passes exactly if no body goes back in the source and the fragments
of the bodies that have one with a line break are found (`orderGate_passed_iff`). It does not always
pass: a helper above the test it is spliced into is enough (`orderGate_fails_for_spliced_helper`).
-/

namespace TestMigration.Rendering

open TestMigration.Action Text Profile
open scoped List

/-! ### One body -/

/-- The fragments of the unit's own actions in a body. -/
def entriesIn (unitName name : String) (trace : List TraceEntry) : List TraceEntry :=
  (trace.filter fun e => e.kind == .action && e.provenance.unitName == unitName).filter
    fun e => e.body = name

variable {text unitName name : String} {entries trace : List TraceEntry} {s : Session} {env : Env}

/-- **Nothing is misplaced** if the source lines never go back and the fragments are placed in
order. -/
theorem firstMisplaced_eq_none_iff {text : List Char} {lastLine start : Nat} :
    firstMisplaced text lastLine start entries = none ↔
      (lastLine :: entries.map (·.provenance.startLine)).IsChain (· ≤ ·) ∧
        Placed text start (entries.map (·.fragment.toList)) := by
  induction entries generalizing lastLine start with
  | nil => simp [firstMisplaced, Placed]
  | cons e _ ih =>
    rw [firstMisplaced, List.map_cons, List.map_cons, placed_cons_iff]
    by_cases hline : e.provenance.startLine < lastLine
    · rw [if_pos hline]
      simp [Nat.not_le.mpr hline]
    · rw [if_neg hline]
      cases hfind : findFrom e.fragment.toList text start with
      | none => simp
      | some i => simp [ih, Nat.le_of_not_lt hline]

theorem mem_bodyEntries_iff : (name, entries) ∈ bodyEntries unitName trace ↔
      entries = entriesIn unitName name trace ∧ entries ≠ [] := by
  unfold bodyEntries entriesIn
  generalize trace.filter (fun e => e.kind == .action && e.provenance.unitName == unitName) = own
  -- The induction is from the end, as the bodies are collected.
  suffices h : (Table.keys (own.foldl (fun bodies e =>
        Table.put e.body ((Table.get? e.body bodies).getD [] ++ [e]) bodies) [])).Nodup ∧
      ∀ name, Table.get? name (own.foldl (fun bodies e =>
        Table.put e.body ((Table.get? e.body bodies).getD [] ++ [e]) bodies) []) =
          if own.filter (fun e => e.body = name) = [] then none
          else some (own.filter fun e => e.body = name) by
    rw [Table.mem_iff_get?_eq_some h.1, h.2]
    by_cases hempty : own.filter (fun e => e.body = name) = []
    · rw [if_pos hempty, hempty]
      simp
    · rw [if_neg hempty, Option.some.injEq]
      constructor
      · rintro rfl
        exact ⟨rfl, hempty⟩
      · exact fun h => h.1.symm
  induction own using List.reverseRecOn with
  | nil => simp [Table.keys]
  | append_singleton own e ih =>
    obtain ⟨hnodup, hget⟩ := ih
    rw [List.foldl_append]
    refine ⟨Table.nodup_keys_put hnodup _ _, fun name => ?_⟩
    rw [List.foldl_cons, List.foldl_nil, Table.get?_put, hget, List.filter_append]
    by_cases hname : e.body = name
    · subst hname
      by_cases hempty : own.filter (fun e' => e'.body = e.body) = []
      · simp [hempty]
      · simp [hempty]
    · simp [hname, hget]

theorem orderGate_passed_iff_forall : (orderGate unitName text s).passed = true ↔
      ∀ name, firstMisplaced text.toList 0 0 (entriesIn unitName name s.trace) = none := by
  have hpassed : (orderGate unitName text s).passed = true ↔
      ∀ name entries, (name, entries) ∈ bodyEntries unitName s.trace →
        firstMisplaced text.toList 0 0 entries = none := by
    simp [orderGate]
  rw [hpassed]
  constructor
  · intro h name
    by_cases hempty : entriesIn unitName name s.trace = []
    · rw [hempty]
      rfl
    · exact h name _ (mem_bodyEntries_iff.mpr ⟨rfl, hempty⟩)
  · intro h name entries hmem
    rw [(mem_bodyEntries_iff.mp hmem).1]
    exact h name

theorem isChain_zero_cons_iff {ns : List Nat} :
    (0 :: ns).IsChain (· ≤ ·) ↔ ns.Pairwise (· ≤ ·) := by
  rw [List.isChain_iff_pairwise, List.pairwise_cons]
  exact and_iff_right fun n _ => Nat.zero_le n

/-- **The check of the order is an exact test.** Whatever the trace and the text, it passes exactly
if in each body the lines of the source never go back and the fragments occur at positions that grow
from each to the next, wherever these may be; that each fragment is looked for at the first possible
place loses nothing. -/
theorem order_checked_exactly (unitName text : String) (s : Session) :
    (orderGate unitName text s).passed = true ↔ ∀ name,
      ((entriesIn unitName name s.trace).map (·.provenance.startLine)).Pairwise (· ≤ ·) ∧
        ∃ places : List Nat, places.Pairwise (· < ·) ∧
          List.Forall₂ (fun e i => OccursAt e.fragment.toList text.toList i)
            (entriesIn unitName name s.trace) places := by
  rw [orderGate_passed_iff_forall]
  refine forall_congr' fun name => ?_
  rw [firstMisplaced_eq_none_iff, isChain_zero_cons_iff, placed_iff_exists_places]
  simp only [List.forall₂_map_left_iff, Nat.zero_le, implies_true, true_and]

/-! ### The main result -/

theorem fillFrom_plain_append (values : List (String × String)) {opening : List Char}
    (h : '$' ∉ opening) (rest : List Char) : Template.fillFrom values .plain (opening ++ rest) =
      opening ++ Template.fillFrom values .plain rest := by
  induction opening with
  | nil => rfl
  | cons c opening ih =>
    rw [List.mem_cons, not_or] at h
    have hstep : Template.State.step values .plain c = (.plain, [c]) := by
      simp [Template.State.step, Template.State.plainStep, Ne.symm h.1]
    rw [List.cons_append, Template.fillFrom, hstep]
    simp [ih h.2]

/-- A statement that gives a variable its value holds the value. -/
theorem occurs_fill_statement (opening : List Char) (h : '$' ∉ opening) {closing : List Char}
    (hclosing : closing = [] ∨ closing = [';']) (name value : String) :
    value.toList <:+: (fill (String.ofList (opening ++ ("$name = $value".toList ++ closing)))
      [("name", name), ("value", value)]).toList := by
  refine ⟨opening ++ name.toList ++ [' ', '=', ' '], closing, ?_⟩
  rw [fill, String.toList_ofList, String.toList_ofList, fillFrom_plain_append _ h]
  rcases hclosing with rfl | rfl <;>
    simp [Template.fillFrom, Template.State.step, Template.State.plainStep, Template.isNameStart,
      Template.isNameChar, Template.State.flush, Template.slot, List.lookup_cons]

/-- The profiles that come with the program write values as they are. -/
theorem holdsValues_of_mem_builtins {p : Profile} (h : p ∈ builtins) : HoldsValues p.phrases := by
  rcases List.mem_pair.mp h with rfl | rfl
  · have hassign := occurs_fill_statement [] (by simp) (.inl rfl)
    exact ⟨hassign, hassign, hassign⟩
  · exact ⟨occurs_fill_statement "const ".toList (by simp) (.inr rfl),
      occurs_fill_statement "let ".toList (by simp) (.inr rfl),
      occurs_fill_statement [] (by simp) (.inr rfl)⟩

/-- The source lines of the unit's own actions in a body, in the order of writing. -/
def sourceLines (env : Env) (name : String) : List Nat :=
  ((unitMarks env).filter fun m =>
    m.kind == .action && m.provenance.unitName == env.unit.unitName && m.body = name).map
      (·.provenance.startLine)

theorem startLines_entriesIn (h : marksOf trace = unitMarks env) (name : String) :
    (entriesIn env.unit.unitName name trace).map (·.provenance.startLine) =
      sourceLines env name := by
  rw [sourceLines, ← h, marksOf, List.filter_map, List.map_map, List.filter_filter, entriesIn,
    List.filter_filter]
  refine congrArg₂ List.map rfl (List.filter_congr fun e _ => ?_)
  have haction : (TraceKind.action != .locator) = true := rfl
  have hwait : (TraceKind.wait == .action) = false := rfl
  cases hkind : e.kind <;> simp [hkind, Bool.and_comm]

/-- The fragments of a body without line breaks are among those placed in the text. -/
theorem sublist_wholeFragments (h : (entriesIn unitName name trace).any TraceEntry.broken = false) :
    (entriesIn unitName name trace).map TraceEntry.fragment <+ wholeFragments trace := by
  refine List.Sublist.map _ ?_
  rw [List.any_eq_false] at h
  have hsame : entriesIn unitName name trace =
      (entriesIn unitName name trace).filter fun e => e.kind == .action && !e.broken := by
    refine (List.filter_eq_self.mpr fun e he => ?_).symm
    have hkind : e.kind = .action := by
      simp only [entriesIn, List.mem_filter, Bool.and_eq_true] at he
      exact eq_of_beq he.1.2.1
    simp [hkind, h e he]
  rw [hsame]
  exact (List.filter_sublist.trans List.filter_sublist).filter _

/-- The check passes if in each body the source lines never go back and the fragments are placed in
order. -/
theorem orderGate_passed_iff_placed (h : marksOf s.trace = unitMarks env)
    (text : String) : (orderGate env.unit.unitName text s).passed = true ↔
      ∀ name, (sourceLines env name).Pairwise (· ≤ ·) ∧ Placed text.toList 0
          ((entriesIn env.unit.unitName name s.trace).map (·.fragment.toList)) := by
  rw [orderGate_passed_iff_forall]
  refine forall_congr' fun name => ?_
  rw [firstMisplaced_eq_none_iff, startLines_entriesIn h, isChain_zero_cons_iff]

/-- With a profile that comes with the program, the whole fragments of a unit are placed and
listed. -/
theorem exists_placed_of_mem_builtins (hprofile : env.profile ∈ builtins)
    {path : String} (h : renderTo env path = .ok (.ok text, s)) :
    Placed text.toList 0 ((wholeFragments s.trace).map String.toList) ∧
      marksOf s.trace = unitMarks env := by
  have := holdsValues_of_mem_builtins hprofile
  obtain ⟨hplaced, hmarks, -⟩ := exists_placed_of_renderTo hprofile h
  exact ⟨hplaced, hmarks⟩

/-- **When the check of the order passes.** For a unit rendered with a profile that comes with the
program, under any strategy, it passes exactly if in each body the source lines never go back and,
where a fragment has a line break, all fragments of the body are found in order. -/
theorem orderGate_passed_iff {env : Env} (hprofile : env.profile ∈ builtins) {path text : String}
    {s : Session} (h : renderTo env path = .ok (.ok text, s)) :
    (orderGate env.unit.unitName text s).passed = true ↔
      ∀ name, (sourceLines env name).Pairwise (· ≤ ·) ∧
        ((entriesIn env.unit.unitName name s.trace).any TraceEntry.broken = true →
          Placed text.toList 0
            ((entriesIn env.unit.unitName name s.trace).map (·.fragment.toList))) := by
  obtain ⟨hplaced, hmarks⟩ := exists_placed_of_mem_builtins hprofile h
  rw [orderGate_passed_iff_placed hmarks]
  refine forall_congr' fun name => and_congr_right fun _ => ⟨fun h _ => h, fun h => ?_⟩
  cases hbroken : (entriesIn env.unit.unitName name s.trace).any TraceEntry.broken with
  | true => exact h hbroken
  | false =>
    have hsub := (sublist_wholeFragments hbroken).map String.toList
    rw [List.map_map] at hsub
    exact hplaced.sublist hsub

/-- A test that calls a helper of its class, which stands above it. -/
def helpedFlow : SourceUnit :=
  { bareUnit "F.java" "FlowTest" .testClass with
    methods := [{
      name := "help", params := [], returnType := "void", role := .helper
      actions := [.navigate (.literal { value := .text "y" }) ⟨"F.java", 6, 6⟩]
      provenance := ⟨"F.java", 5, 7⟩ }]
    tests := [{
      name := "flow", provenance := ⟨"F.java", 8, 12⟩
      actions := [.navigate (.literal { value := .text "x" }) ⟨"F.java", 10, 10⟩,
        .delegate { call := .mk "c1" "FlowTest" "help" [] .self "" "help()"
                    provenance := ⟨"F.java", 11, 11⟩ }] }] }

def helpedFlowEnv (strategy : DelegateStrategy) : Env where
  model := Linking.linkedModel [helpedFlow] []
  profile := playwrightTs
  strategy
  unit := helpedFlow

theorem profile_helpedFlowEnv (strategy : DelegateStrategy) :
    (helpedFlowEnv strategy).profile ∈ builtins :=
  List.mem_cons_of_mem _ (List.mem_singleton.mpr rfl)

theorem exists_renderTo_helpedFlowEnv (strategy : DelegateStrategy) :
    ∃ text s, renderTo (helpedFlowEnv strategy) "FlowTest.spec.ts" = .ok (.ok text, s) ∧
      s.trace.any TraceEntry.broken = false := by
  have hrun : (renderTo (helpedFlowEnv strategy) "FlowTest.spec.ts").toOption.any
      (fun r => r.1.isOk && !r.2.trace.any TraceEntry.broken) = true := by
    cases strategy <;> decide +kernel
  obtain ⟨_ | text, s, hrun, hwhole⟩ := exists_of_any hrun
  · cases hwhole
  · exact ⟨text, s, hrun, by simpa using (Bool.and_eq_true_iff.mp hwhole).2⟩

/-- Spliced, the helper takes the test back to an earlier line. -/
theorem sourceLines_helpedFlowEnv : sourceLines (helpedFlowEnv .inline) "test:flow" = [10, 6] ∧
    ((unitMarks (helpedFlowEnv .call)).map (·.provenance.startLine)).Pairwise (· ≤ ·) := by
  decide +kernel

theorem orderGate_passed_iff_helpedFlowEnv :
    (∃ text s, renderTo (helpedFlowEnv .call) "FlowTest.spec.ts" = .ok (.ok text, s) ∧
      (orderGate "F.java" text s).passed = true) ∧
    ∃ text s, renderTo (helpedFlowEnv .inline) "FlowTest.spec.ts" = .ok (.ok text, s) ∧
      ¬(orderGate "F.java" text s).passed = true := by
  constructor
  · obtain ⟨text, s, hrun, hwhole⟩ := exists_renderTo_helpedFlowEnv .call
    refine ⟨text, s, hrun, (orderGate_passed_iff (profile_helpedFlowEnv .call) hrun).mpr
      fun name => ?_⟩
    refine ⟨sourceLines_helpedFlowEnv.2.sublist (List.filter_sublist.map _), fun hbroken => ?_⟩
    obtain ⟨e, he, hbroken⟩ := List.any_eq_true.mp hbroken
    have hmem : e ∈ s.trace := List.mem_of_mem_filter (List.mem_of_mem_filter he)
    exact absurd hbroken (List.any_eq_false.mp hwhole e hmem)
  · obtain ⟨text, s, hrun, -⟩ := exists_renderTo_helpedFlowEnv .inline
    refine ⟨text, s, hrun, (orderGate_passed_iff (profile_helpedFlowEnv .inline) hrun).not.mpr ?_⟩
    intro h
    have hsorted := (h "test:flow").1
    rw [sourceLines_helpedFlowEnv.1] at hsorted
    revert hsorted
    decide

/-- **The check can reject what rendering has written.** A unit of a linked model is rendered, with
a profile that comes with the program, but does not pass the check of the order. -/
theorem orderGate_fails_for_spliced_helper : ∃ units env path text s,
    Linking.link units [] = .ok env.model ∧ env.unit ∈ env.model.units ∧ env.profile ∈ builtins ∧
      renderTo env path = .ok (.ok text, s) ∧
      (orderGate env.unit.unitName text s).passed = false := by
  obtain ⟨text, s, hrun, -⟩ := exists_renderTo_helpedFlowEnv .inline
  refine ⟨[helpedFlow], helpedFlowEnv .inline, _, text, s, rfl, List.mem_singleton.mpr rfl,
    profile_helpedFlowEnv .inline, hrun, Bool.eq_false_iff.mpr fun hpassed => ?_⟩
  obtain ⟨-, hmarks⟩ := exists_placed_of_mem_builtins (profile_helpedFlowEnv .inline) hrun
  have hsorted := ((orderGate_passed_iff_placed hmarks text).mp hpassed "test:flow").1
  revert hsorted
  decide

end TestMigration.Rendering
