import TestMigration.Proofs.Rendering.Outcomes
import TestMigration.Proofs.Rendering.SourceOrder
import TestMigration.Proofs.Text.Copies
/-!
# Waits that the checks miss

The checks of a finished file look for the fragment of each wait, and for the fragments of each body
one behind the other. They look anywhere in the text each time, so two tests that wait for the same
thing need it once.

How many copies of a fragment an accepted text must have can be said exactly
(`copies_enforced_iff`): as many as a single body has, and one at least. The lower bound holds for
every text, if the fragment cannot overlap itself. That there is no better one is shown by an
accepted text with no more copies, put together from the fragments of the trace, in which all bodies
share the copies of the one fragment. Both rest on what rendering does to a session
(`Session.Sound`).
-/

namespace TestMigration.Rendering

open TestMigration.Action Text Profile
open scoped List

/-! ### Sessions -/

/-- The number of fragments of a kind that a body has from a unit and that are the given one. -/
def Session.tally (s : Session) (kind : TraceKind) (unitName body f : String) : Nat :=
  s.trace.countP fun e =>
    e.kind == kind && e.provenance.unitName == unitName && e.body = body && e.fragment == f

/-- The number of waits with a fragment. -/
def Session.waitsWith (s : Session) (f : String) : Nat :=
  s.trace.countP fun e => e.kind == .wait && e.fragment == f

/-- A session with no more fragments of waits than waits, each among the statements of its body. -/
structure Session.Sound (s : Session) : Prop where
  bounded : waitEntries s ≤ s.waits
  paired (unitName body f : String) :
    s.tally .wait unitName body f ≤ s.tally .action unitName body f

theorem sound_empty : Session.Sound {} := ⟨Nat.le_refl 0, fun _ _ _ => Nat.le_refl 0⟩

instance {env : Env} : Stable env Session.Sound where
  trace {s e} he hs := by
    refine ⟨by rw [waitEntries_append he]; exact hs.bounded, fun unitName body f => ?_⟩
    show (s.trace ++ [e]).countP _ ≤ (s.trace ++ [e]).countP _
    rw [List.countP_append, List.countP_append]
    exact Nat.add_le_add (hs.paired unitName body f) (by simp [he])
  remark _ _ hs := ⟨hs.bounded, hs.paired⟩
  ofClass _ hs := ⟨hs.bounded, hs.paired⟩
  ofModule _ hs := ⟨hs.bounded, hs.paired⟩
  ofFunctions _ _ hs := ⟨hs.bounded, hs.paired⟩
  wait {s} hs := ⟨hs.bounded.trans (Nat.le_succ s.waits), hs.paired⟩
  waited {s} p fragment body hs := by
    refine ⟨?_, fun unitName name f => ?_⟩
    · show (s.trace ++ waitPair p fragment body).countP _ ≤ s.waits + 1
      rw [List.countP_append]
      exact Nat.add_le_add hs.bounded (by simp [waitPair])
    · show (s.trace ++ waitPair p fragment body).countP _ ≤ (s.trace ++ _).countP _
      rw [List.countP_append, List.countP_append]
      exact Nat.add_le_add (hs.paired unitName name f) (by simp [waitPair, List.countP_cons])

/-- **Rendering leaves a sound session**, also if it refuses the file. -/
theorem sound_of_renderTo {env : Env} {path : String} {ending : Except Refusal String} {s : Session}
    (h : renderTo env path = .ok (ending, s)) : s.Sound := by
  have hout := (brings_fileText env path).out env.start sound_empty
  obtain ⟨_, rfl, ⟨_, -, hrun⟩ | ⟨r, -, hrun⟩⟩ := renderTo_cases h
  · rwa [hrun] at hout
  · rwa [hrun] at hout

/-! ### What the checks look for in a text -/

section Found

variable {env : Env} {s : Session} {unitName text f : String} {n : Nat}

/-- A text has all that the checks look for in it. -/
structure Session.FoundIn (s : Session) (unitName : String) (text : List Char) : Prop where
  waits {e : TraceEntry} (he : e ∈ s.trace) : e.kind = .wait → e.fragment.toList <:+: text
  locators {e : TraceEntry} (he : e ∈ s.trace) :
    e.kind = .locator → e.locator ≠ none → e.fragment.toList <:+: text
  bodies (body : String) : Placed text 0 ((entriesIn unitName body s.trace).map (·.fragment.toList))

/-- As fragments of waits are no more than waits, all have to be there. -/
theorem waitGate_passed_iff (h : waitEntries s ≤ s.waits) : (waitGate text s).passed = true ↔
    s.waits ≤ waitEntries s ∧ ∀ e ∈ s.trace, e.kind = .wait →
      e.fragment.toList <:+: text.toList := by
  rw [waitGate, List.partition_eq_filter_filter]
  rw [waitEntries, List.countP_eq_length_filter] at h ⊢
  have hle := List.length_filter_le (fun e : TraceEntry => occursIn e.fragment text)
    (s.trace.filter (·.kind == .wait))
  have hall : ((s.trace.filter (·.kind == .wait)).filter fun e => occursIn e.fragment text).length =
      (s.trace.filter (·.kind == .wait)).length ↔
        ∀ e ∈ s.trace, e.kind = .wait → e.fragment.toList <:+: text.toList := by
    rw [List.length_filter_eq_length_iff]
    simp [occursIn_iff]
  rw [beq_iff_eq, ← hall]
  omega

theorem locatorGate_passed_iff : (locatorGate env.profile text s).passed = true ↔
    ∀ e ∈ s.trace, e.kind = .locator → ∀ l ∈ e.locator,
      mismatches env.profile e l = false ∧ e.fragment.toList <:+: text.toList := by
  have hentry : ∀ {e l}, (e, l) ∈ s.trace.filterMap (fun e =>
      if e.kind = .locator then e.locator.map fun l => (e, l) else none) ↔
        e ∈ s.trace ∧ e.kind = .locator ∧ l ∈ e.locator := by
    intro e l
    rw [List.mem_filterMap]
    constructor
    · rintro ⟨_, he', h⟩
      split at h
      · obtain ⟨_, hl', hpair⟩ := Option.map_eq_some_iff.mp h
        cases hpair
        exact ⟨he', ‹_›, hl'⟩
      · cases h
    · rintro ⟨he, hkind, hl⟩
      exact ⟨e, he, by rw [if_pos hkind, Option.mem_def.mp hl]; rfl⟩
  unfold locatorGate
  rw [Bool.and_eq_true, List.isEmpty_iff, List.isEmpty_iff, List.map_eq_nil_iff,
    List.map_eq_nil_iff, List.filter_eq_nil_iff, List.filter_eq_nil_iff]
  constructor
  · rintro ⟨hmatch, hthere⟩ e he hkind l hl
    have hmem := hentry.mpr ⟨he, hkind, hl⟩
    exact ⟨by simpa using hmatch _ hmem, occursIn_iff.mp (by simpa using hthere _ hmem)⟩
  · intro h
    refine ⟨fun ⟨e, l⟩ hmem => ?_, fun ⟨e, l⟩ hmem => ?_⟩
    · obtain ⟨he, hkind, hl⟩ := hentry.mp hmem
      simp [(h e he hkind l hl).1]
    · obtain ⟨he, hkind, hl⟩ := hentry.mp hmem
      simp [occursIn_iff.mpr (h e he hkind l hl).2]

/-- **What the checks ask of a text.** If they accept any text at all, they accept those with what
they look for. -/
theorem exists_runGates_iff_foundIn (hsound : s.Sound) {accepted : String}
    {results : List GateResult} (h : runGates env accepted s = .ok results) :
    (∃ results, runGates env text s = .ok results) ↔ s.FoundIn env.unit.unitName text.toList := by
  obtain ⟨hwaits, hlocators, horder⟩ := exists_runGates_iff.mp ⟨results, h⟩
  rw [waitGate_passed_iff hsound.bounded] at hwaits
  rw [locatorGate_passed_iff] at hlocators
  rw [orderGate_passed_iff_forall] at horder
  rw [exists_runGates_iff, waitGate_passed_iff hsound.bounded, locatorGate_passed_iff,
    orderGate_passed_iff_forall]
  constructor
  · rintro ⟨hwaits', hlocators', horder'⟩
    refine ⟨fun he => hwaits'.2 _ he, fun {e} he hkind hsome => ?_, fun body => ?_⟩
    · obtain ⟨l, hl⟩ := Option.ne_none_iff_exists'.mp hsome
      exact (hlocators' e he hkind l hl).2
    · exact (firstMisplaced_eq_none_iff.mp (horder' body)).2
  · intro hfound
    refine ⟨⟨hwaits.1, fun e he => hfound.waits he⟩, fun e he hkind l hl => ?_, fun body => ?_⟩
    · exact ⟨(hlocators e he hkind l hl).1,
        hfound.locators he hkind (by simp [Option.mem_def.mp hl])⟩
    · exact firstMisplaced_eq_none_iff.mpr
        ⟨(firstMisplaced_eq_none_iff.mp (horder body)).1, hfound.bodies body⟩

/-! ### Copies that are there, and copies that need not be -/

theorem tally_eq_count (body : String) : s.tally .action unitName body f =
    ((entriesIn unitName body s.trace).map (·.fragment)).count f := by
  rw [entriesIn, List.count, List.countP_map, List.countP_filter, List.countP_filter]
  refine List.countP_congr fun e _ => ?_
  simp [and_assoc, and_comm]

theorem Session.FoundIn.copies (h : s.FoundIn unitName text.toList) (hf : Unbordered f.toList)
    (body : String) : Copies f.toList (s.tally .action unitName body f) text.toList := by
  have hcopies := (h.bodies body).copies hf
  have hcount : ((entriesIn unitName body s.trace).map (·.fragment.toList)).count f.toList =
      s.tally .action unitName body f := by
    rw [tally_eq_count, ← List.count_map_of_injective _ _ (fun _ _ => String.toList_inj.mp) f,
      List.map_map]
    rfl
  rwa [hcount] at hcopies

theorem exists_foundIn (hn : 1 ≤ n) (h : ∀ body, s.tally .action unitName body f ≤ n) :
    ∃ lines : List String, lines.count f = n ∧
      (∀ line ∈ lines, line = f ∨ ∃ e ∈ s.trace, e.fragment = line) ∧
      s.FoundIn unitName (join "\n" lines).toList := by
  have hlists : ∀ l ∈ s.trace.map (fun e => [e.fragment]) ++
      s.trace.map (fun e => (entriesIn unitName e.body s.trace).map (·.fragment)),
        l.count f ≤ n := by
    intro l hl
    rcases List.mem_append.mp hl with hone | hbody
    · obtain ⟨e, -, rfl⟩ := List.mem_map.mp hone
      exact List.count_le_length.trans hn
    · obtain ⟨e, -, rfl⟩ := List.mem_map.mp hbody
      rw [← tally_eq_count]
      exact h e.body
  obtain ⟨lines, hcount, hsub, hmem⟩ := exists_shared f hlists
  have hplaced := placed_lines lines
  have hfragment : ∀ {e}, e ∈ s.trace → e.fragment.toList <:+: (join "\n" lines).toList := by
    intro e he
    have hsingle := hsub [e.fragment] (List.mem_append_left _ (List.mem_map.mpr ⟨e, he, rfl⟩))
    exact hplaced.occurs (List.mem_map_of_mem (List.singleton_sublist.mp hsingle))
  refine ⟨lines, hcount, fun line hline => (hmem line hline).imp_right ?_, fun he _ => hfragment he,
    fun he _ _ => hfragment he, fun body => ?_⟩
  · rintro ⟨l, hl, hmem⟩
    rcases List.mem_append.mp hl with hone | hbody
    · obtain ⟨e, he, rfl⟩ := List.mem_map.mp hone
      exact ⟨e, he, (List.mem_singleton.mp hmem).symm⟩
    · obtain ⟨e, -, rfl⟩ := List.mem_map.mp hbody
      obtain ⟨e', he', rfl⟩ := List.mem_map.mp hmem
      exact ⟨e', (List.mem_filter.mp (List.mem_filter.mp he').1).1, rfl⟩
  · cases hentries : entriesIn unitName body s.trace with
    | nil => trivial
    | cons e =>
      have he : e ∈ entriesIn unitName body s.trace := hentries ▸ List.mem_cons_self
      have hbody : e.body = body := by simpa using (List.mem_filter.mp he).2
      have htrace := (List.mem_filter.mp (List.mem_filter.mp he).1).1
      have hlines := hsub ((entriesIn unitName body s.trace).map (·.fragment))
        (List.mem_append_right _ (List.mem_map.mpr ⟨e, htrace, by rw [hbody]⟩))
      have hfound := hplaced.sublist (hlines.map String.toList)
      rwa [List.map_map, hentries] at hfound

end Found

/-! ### The main result -/

/-- A fragment that can be told from the others: it has no line break, cannot overlap itself, and
lies in no other one. -/
structure Session.Separable (s : Session) (f : String) : Prop where
  nonempty : f.toList ≠ []
  unbroken : '\n' ∉ f.toList
  unbordered : Unbordered f.toList
  alone : ∀ e ∈ s.trace, e.fragment ≠ f → ¬f.toList <:+: e.fragment.toList

section Main

variable {env : Env} {s : Session} {f : String}

theorem exists_wait_of_waitsWith (h : 0 < s.waitsWith f) :
    ∃ e ∈ s.trace, e.kind = .wait ∧ e.fragment = f := by
  obtain ⟨e, he, hwait⟩ := List.countP_pos_iff.mp h
  exact ⟨e, he, by simpa using hwait⟩

/-- **How many copies the checks ask for.** -/
theorem copies_enforced_iff (hsound : s.Sound) {accepted : String} {results : List GateResult}
    (haccepted : runGates env accepted s = .ok results) (hf : s.Separable f)
    (hwait : 0 < s.waitsWith f)
    (n : Nat) : (∀ text results, runGates env text s = .ok results →
      Copies f.toList n text.toList) ↔
      n ≤ 1 ∨ ∃ body, n ≤ s.tally .action env.unit.unitName body f := by
  have hfound : ∀ text, (∃ results, runGates env text s = .ok results) ↔
      s.FoundIn env.unit.unitName text.toList :=
        fun _ => exists_runGates_iff_foundIn hsound haccepted
  constructor
  · intro hall
    by_contra hfew
    rw [not_or, not_exists] at hfew
    obtain ⟨_, hbodies⟩ := hfew
    have hless : ∀ body, s.tally .action env.unit.unitName body f ≤ n - 1 := fun body => by
      have := hbodies body
      omega
    obtain ⟨lines, _, hlines, hin⟩ := exists_foundIn (by omega) hless
    obtain ⟨results', hrun⟩ := (hfound (join "\n" lines)).mpr hin
    have hle := (hall _ results' hrun).le_count hf.nonempty hf.unbroken fun line hline hne => by
      obtain ⟨e, he, rfl⟩ := (hlines line hline).resolve_left hne
      exact hf.alone e he hne
    omega
  · intro hmany text results' hrun
    have hin := (hfound text).mp ⟨results', hrun⟩
    rcases hmany with hone | ⟨body, hbody⟩
    · obtain ⟨e, he, hkind, rfl⟩ := exists_wait_of_waitsWith hwait
      exact (copies_one_of_occurs (hin.waits he hkind)).mono hone
    · exact (hin.copies hf.unbordered body).mono hbody

end Main

/-- **Which waits can get lost without notice.** Rendering leaves a sound session. A text accepted
for it has all waits of each single body. For the bodies together this need not be so: all accepted
texts have a number of copies of the fragment of a wait exactly if the number is at most one, or a
single body has the fragment that often. -/
theorem accepted_texts_have_waits_of_one_body (env : Env) (s : Session) :
    (∀ path ending, renderTo env path = .ok (ending, s) → s.Sound) ∧
    (s.Sound → ∀ accepted results, runGates env accepted s = .ok results →
      (∀ f, Unbordered f.toList → ∀ body,
        Copies f.toList (s.tally .wait env.unit.unitName body f) accepted.toList) ∧
      ∀ f, s.Separable f → 0 < s.waitsWith f → ∀ n,
        ((∀ text results, runGates env text s = .ok results → Copies f.toList n text.toList) ↔
          n ≤ 1 ∨ ∃ body, n ≤ s.tally .action env.unit.unitName body f)) := by
  refine ⟨fun _ _ => sound_of_renderTo, fun hsound accepted results haccepted => ⟨?_, ?_⟩⟩
  · intro f hf body
    have hfound := (exists_runGates_iff_foundIn hsound haccepted).mp ⟨results, haccepted⟩
    exact (hfound.copies hf body).mono (hsound.paired _ body f)
  · exact fun f hf hwait => copies_enforced_iff hsound haccepted hf hwait

/-! ### Two tests that wait for the same thing -/

def homeWait : String := "page.wait_for_url(lambda url: \"home\" in url, timeout=5000)"

def homeTest (name address : String) (line : Nat) : TestCase :=
  { name, provenance := ⟨"Flow.java", line, line + 3⟩
    actions :=
      [.navigate (.literal { value := .text address }) ⟨"Flow.java", line + 1, line + 1⟩,
        .wait {
          condition := "urlContains", args := [.literal { value := .text "home" }], seconds := 5
          provenance := ⟨"Flow.java", line + 2, line + 2⟩ }] }

def homeTests : SourceUnit :=
  { flowTest "Flow.java" "FlowTest" [] with
    tests := [homeTest "opens" "x" 2, homeTest "closes" "y" 7] }

def homeEnv : Env where
  model := Linking.linkedModel [homeTests] []
  profile := playwrightPython
  strategy := .call
  unit := homeTests

def homeTrace (name address : String) (line : Nat) : List TraceEntry :=
  { kind := .action, provenance := ⟨"Flow.java", line + 1, line + 1⟩
    fragment := "page.goto(\"" ++ address ++ "\")", body := "test:" ++ name } ::
    waitPair ⟨"Flow.java", line + 2, line + 2⟩ homeWait ("test:" ++ name)

def homeSession : Session where
  trace := homeTrace "opens" "x" 2 ++ homeTrace "closes" "y" 7
  waits := 2

def homeText : String := "def test_opens(page: Page):
    page.goto(\"x\")

def test_closes(page: Page):
    page.goto(\"y\")
    page.wait_for_url(lambda url: \"home\" in url, timeout=5000)
"

theorem sound_homeSession : homeSession.Sound := by
  have htest : ∀ {s : Session} (name address : String) (line : Nat), s.Sound → Session.Sound
      { s with waits := s.waits + 1, trace := s.trace ++ homeTrace name address line } := by
    intro s name address line hs
    have hopened := Noting.trace homeEnv (s := s)
      (e := { kind := .action, provenance := ⟨"Flow.java", line + 1, line + 1⟩
              fragment := "page.goto(\"" ++ address ++ "\")", body := "test:" ++ name })
                (by simp) hs
    have hwaited :=
      Stable.waited homeEnv ⟨"Flow.java", line + 2, line + 2⟩ homeWait ("test:" ++ name) hopened
    rwa [List.append_assoc] at hwaited
  exact htest "closes" "y" 7 (htest "opens" "x" 2 sound_empty)

theorem accepted_homeText : ∃ results, runGates homeEnv homeText homeSession = .ok results := by
  rw [exists_runGates_iff]
  decide +kernel

theorem separable_homeWait : homeSession.Separable homeWait where
  nonempty := by decide +kernel
  unbroken := by decide +kernel
  unbordered := by decide +kernel
  alone := by decide +kernel

theorem accepted_texts_have_waits_of_one_body_homeSession : homeSession.Sound ∧
    homeSession.Separable homeWait ∧ homeSession.waitsWith homeWait = 2 ∧
    Copies homeWait.toList (homeSession.tally .wait "Flow.java" "test:opens" homeWait)
      homeText.toList ∧
    ∀ n, (∀ text results, runGates homeEnv text homeSession = .ok results →
      Copies homeWait.toList n text.toList) ↔
        n ≤ 1 ∨ ∃ body, n ≤ homeSession.tally .action "Flow.java" body homeWait := by
  have hwaits : homeSession.waitsWith homeWait = 2 := by decide +kernel
  obtain ⟨results, haccepted⟩ := accepted_homeText
  obtain ⟨hbodies, hcopies⟩ := (accepted_texts_have_waits_of_one_body homeEnv homeSession).2
    sound_homeSession homeText results haccepted
  exact ⟨sound_homeSession, separable_homeWait, hwaits,
    hbodies homeWait separable_homeWait.unbordered "test:opens",
    hcopies homeWait separable_homeWait (by rw [hwaits]; decide)⟩

/-- **A wait can get lost without notice.** A sound session with two waits, in two tests, and a text
that passes all checks with only one of them. -/
theorem wait_lost_without_notice : ∃ env s text results f, s.Sound ∧
    runGates env text s = .ok results ∧ s.waitsWith f = 2 ∧ ¬Copies f.toList 2 text.toList := by
  obtain ⟨results, haccepted⟩ := accepted_homeText
  refine ⟨homeEnv, homeSession, homeText, results, homeWait, sound_homeSession, haccepted,
    by decide +kernel, fun hcopies => ?_⟩
  have hplaces : homeText.toList.tails.countP (homeWait.toList.isPrefixOf ·) = 1 := by
    decide +kernel
  have hle := hcopies.le_countP_tails separable_homeWait.nonempty
  omega

end TestMigration.Rendering
