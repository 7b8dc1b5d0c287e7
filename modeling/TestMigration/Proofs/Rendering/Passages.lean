import TestMigration.Proofs.Rendering.SourceOrder
import TestMigration.Proofs.Text.Paths
/-!
# Passages without a target form

Source text that has no target form is passed on in comments. It is cut into lines by one rule and
written by another: the first knows every line end of Unicode, the second the line feed only. So
what is written is safe only if no line end is left where the second rule looks, and complete only
if cutting and trimming lose nothing but blanks. Both are so: the lines written are the margin, the
mark of a comment and a rest without a line end, and the rests hold the text but for its blanks
(`untranslated_stays_commented`).
-/

namespace TestMigration.Rendering

open TestMigration.Action Text Profile

/-! ### Lines and trimming -/

theorem isBlank_of_isLineEnd {c : Char} (h : isLineEnd c = true) : isBlank c = true := by
  simp only [isLineEnd, isBlank, Bool.or_eq_true, Bool.and_eq_true, decide_eq_true_eq,
    beq_iff_eq] at h ⊢
  omega

/-- No line holds a line end if the line begun holds none. -/
theorem linesOf_go_clean {line cs : List Char} (hline : ∀ c ∈ line, isLineEnd c = false) :
    ∀ l ∈ linesOf.go line cs, ∀ c ∈ l, isLineEnd c = false := by
  fun_induction linesOf.go line cs with
  | case1 => simp
  | case2 => simpa using hline
  | case3 line rest ih => simpa using ⟨hline, ih (by simp)⟩
  | case4 line c rest _ _ ih => simpa using ⟨hline, ih (by simp)⟩
  | case5 line c rest _ hend ih => exact ih (by simpa using ⟨by simpa using hend, hline⟩)

/-- Cutting into lines loses blanks only. -/
theorem inked_linesOf_go (line cs : List Char) :
    (linesOf.go line cs).flatMap (List.filter (!isBlank ·)) =
      line.reverse.filter (!isBlank ·) ++ cs.filter (!isBlank ·) := by
  fun_induction linesOf.go line cs with
  | case1 => simp_all
  | case2 => simp
  | case3 line rest ih =>
    simp [ih, show isBlank '\r' = true by decide, show isBlank '\n' = true by decide]
  | case4 line c rest _ hend ih => simp [ih, isBlank_of_isLineEnd hend]
  | case5 line c rest _ _ ih => by_cases h : isBlank c = true <;> simp [ih, h]

theorem inked_dropWhile (cs : List Char) :
    (cs.dropWhile isBlank).filter (!isBlank ·) = cs.filter (!isBlank ·) := by
  induction cs with
  | nil => rfl
  | cons c cs ih => by_cases h : isBlank c = true <;> simp [h, ih]

theorem inked_trim (s : String) :
    (trim s).toList.filter (!isBlank ·) = s.toList.filter (!isBlank ·) := by
  simp [trim, trimChars, trimRightChars, trimLeftChars, inked_dropWhile]

theorem mem_of_mem_trim {s : String} {c : Char} (h : c ∈ (trim s).toList) : c ∈ s.toList := by
  simp only [trim, trimChars, trimRightChars, String.toList_ofList, List.mem_reverse] at h
  exact (List.dropWhile_sublist _).subset
    (List.mem_reverse.mp ((List.dropWhile_sublist _).subset h))

/-- The trimmed lines of a trimmed text have no line end, and hold all but blanks. -/
theorem trimmedLines_spec (text : String) {parts : List String}
    (h : parts = (lines (trim text)).map trim) :
    (∀ part ∈ parts, ∀ c ∈ part.toList, isLineEnd c = false) ∧
      parts.flatMap (·.toList.filter (!isBlank ·)) = text.toList.filter (!isBlank ·) := by
  rw [h]
  constructor
  · intro part hpart c hc
    obtain ⟨_, hline, rfl⟩ := List.mem_map.mp hpart
    obtain ⟨l, hl, rfl⟩ := List.mem_map.mp hline
    exact linesOf_go_clean (by simp) l hl c (by simpa using mem_of_mem_trim hc)
  · rw [lines, List.map_map, List.flatMap_map, Text.linesOf]
    simpa [inked_trim] using inked_linesOf_go [] (trim text).toList

/-! ### Comments of one line -/

variable {env : Env} {s : State}

theorem Code.comment_of_not_mem (c : Code) {text : String} (h : '\n' ∉ text.toList) :
    c.comment text = { c with lines := c.lines ++ [c.margin ++ text] } := by
  rw [Code.comment, splitOn, show "\n".toList = ['\n'] from rfl, splitAtAll_singleton,
    List.splitOn_eq_singleton h]
  simp

theorem run_forM_comment {texts : List String} (h : ∀ text ∈ texts, '\n' ∉ text.toList) :
    (texts.forM comment).run env s = (.ok (), { s with code := { s.code with
      lines := s.code.lines ++ texts.map (s.code.margin ++ ·) } }) := by
  induction texts generalizing s with
  | nil => simp; rfl
  | cons text texts ih =>
    obtain ⟨hfirst, hrest⟩ := List.forall_mem_cons.mp h
    have hcomment : (comment text).run env s = (.ok (), { s with code := s.code.comment text }) :=
      rfl
    rw [List.forM_eq_forM, List.forM_cons, run_bind_ok hcomment, ← List.forM_eq_forM, ih hrest,
      Code.comment_of_not_mem _ hfirst]
    simp [Code.margin]

/-- In the profiles that come with the program a comment is a mark before the text. -/
theorem exists_mark_of_mem_builtins {p : Profile} (h : p ∈ builtins) :
    ∃ mark, p.phrases.comment = mark ++ "$text" ∧ '\n' ∉ mark.toList ∧
      ∀ text, fill p.phrases.comment [("text", text)] = mark ++ text := by
  have hfill : ∀ mark text : String, '$' ∉ mark.toList →
      fill (mark ++ "$text") [("text", text)] = mark ++ text := by
    intro mark text hmark
    rw [fill, String.toList_append, fillFrom_plain_append _ hmark]
    simp [Template.fillFrom, Template.State.step, Template.State.plainStep, Template.isNameStart,
      Template.isNameChar, Template.State.flush, Template.slot]
  rcases List.mem_pair.mp h with rfl | rfl
  · exact ⟨"# ", rfl, by simp, fun text => hfill "# " text (by simp)⟩
  · exact ⟨"// ", rfl, by simp, fun text => hfill "// " text (by simp)⟩

/-- The comments for a text: its trimmed lines, the first behind a label. -/
theorem exists_untranslated_eq (text : String) : ∃ (first : String) (more : List String),
    untranslated text = (phrases >>= fun p => ((("[untranslated] " ++ first) :: more).map
      fun part => fill p.comment [("text", part)]).forM comment) ∧
      (∀ part ∈ first :: more, ∀ c ∈ part.toList, isLineEnd c = false) ∧
      (first :: more).flatMap (·.toList.filter (!isBlank ·)) = text.toList.filter (!isBlank ·) := by
  obtain ⟨hclean, hinked⟩ := trimmedLines_spec text rfl
  unfold untranslated
  cases h : lines (trim text) with
  | nil =>
    rw [h] at hinked
    exact ⟨"", [], by simp, by simp, by simpa using hinked⟩
  | cons first more =>
    rw [h] at hclean hinked
    exact ⟨trim first, more.map trim, by simp, hclean, hinked⟩

/-! ### The main result -/

/-- The characters that end a line in a target language. -/
def lineEnds : List Char :=
  ['\n', '\r', '\x0b', '\x0c', '\x1c', '\x1d', '\x1e', '\u0085', '\u2028', '\u2029']

theorem not_mem_lineEnds {c : Char} (h : isLineEnd c = false) : c ∉ lineEnds := by
  intro hc
  have hends : lineEnds.all isLineEnd = true := by decide
  rw [List.all_eq_true.mp hends c hc] at h
  cases h

/-- **A text without a target form stays in its comments.** It becomes at least one line and no
statement; each line is the margin, the mark of a comment and a rest that does not end the line; and
the rests hold every character of the text that is not blank, in order. -/
theorem untranslated_stays_commented (hprofile : env.profile ∈ builtins) (text : String)
    (s : State) :
    ∃ (mark first : String) (more : List String),
      env.profile.phrases.comment = mark ++ "$text" ∧
      (untranslated text).run env s = (.ok (), { s with code := { s.code with
        lines := s.code.lines ++
          (("[untranslated] " ++ first) :: more).map (s.code.margin ++ mark ++ ·) } }) ∧
      (∀ rest ∈ ("[untranslated] " ++ first) :: more, ∀ c ∈ rest.toList, c ∉ lineEnds) ∧
      (first :: more).flatMap (·.toList.filter (!isBlank ·)) = text.toList.filter (!isBlank ·) := by
  obtain ⟨mark, hmark, hbreak, hfill⟩ := exists_mark_of_mem_builtins hprofile
  obtain ⟨first, more, huntranslated, hclean, hinked⟩ := exists_untranslated_eq text
  have hrests : ∀ rest ∈ ("[untranslated] " ++ first) :: more, ∀ c ∈ rest.toList, c ∉ lineEnds := by
    obtain ⟨hfirst, hmore⟩ := List.forall_mem_cons.mp hclean
    refine List.forall_mem_cons.mpr
      ⟨fun c hc => ?_, fun part hpart c hc => not_mem_lineEnds (hmore part hpart c hc)⟩
    rcases List.mem_append.mp (String.toList_append ▸ hc) with hc | hc
    · have hlabel : "[untranslated] ".toList.all (!isLineEnd ·) = true := by decide
      exact not_mem_lineEnds (by simpa using List.all_eq_true.mp hlabel c hc)
    · exact not_mem_lineEnds (hfirst c hc)
  refine ⟨mark, first, more, hmark, ?_, hrests, hinked⟩
  rw [huntranslated, run_bind_ok run_phrases, run_forM_comment]
  · simp [hfill, String.append_assoc]
  · intro part hpart
    obtain ⟨rest, hrest, rfl⟩ := List.mem_map.mp hpart
    have hnone : '\n' ∉ rest.toList := fun h => hrests rest hrest _ h (by decide)
    simp [hfill, hbreak, hnone]

/-- A carriage return before code would end a comment that was cut at line feeds only. -/
theorem untranslated_stays_commented_return : ∃ (mark first : String) (more : List String),
    mark ++ "$text" = "// $text" ∧
      (first :: more).flatMap (·.toList.filter (!isBlank ·)) = "ab();".toList ∧
      ∀ rest ∈ ("[untranslated] " ++ first) :: more, '\r' ∉ rest.toList := by
  obtain ⟨mark, first, more, hmark, -, hrests, hinked⟩ := untranslated_stays_commented
    (profile_helpedFlowEnv .call) " a\r b();\u2028"
    { frame := { unit := helpedFlow, mode := .test, page := "page", body := "test:flow" } }
  exact ⟨mark, first, more, hmark.symm, hinked, fun rest hrest h => hrests rest hrest _ h
    (by decide)⟩

end TestMigration.Rendering
