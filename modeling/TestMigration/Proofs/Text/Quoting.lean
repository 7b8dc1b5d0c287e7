import TestMigration.Syntax.Reading
import Mathlib.Tactic.SplitIfs
/-!
# Quoted texts are read back

A text is quoted by five replacements of the whole text, one after the other. Each replaces a single
character, so together they write each character by itself (`quote_eq`): what has been written for
one is not touched by the replacements that follow, because the backslash comes first. So a reader
that takes a backslash together with the next character gets the text back, and so does the reader
of source literals, for which none of the written pairs starts a longer escape (`quoted_read_back`).
-/

namespace TestMigration.Text

/-- A mark that texts are put between. -/
def IsMark (mark : Char) : Prop := mark = '\'' ∨ mark = '"'

/-- What is written for a character between marks. -/
def quotedChar (mark c : Char) : List Char :=
  if c = '\\' ∨ c = mark then ['\\', c]
  else if c = '\n' then ['\\', 'n']
  else if c = '\r' then ['\\', 'r']
  else if c = '\t' then ['\\', 't']
  else [c]

/-- What a backslash and the character behind it stand for between marks. -/
def pairChar? (mark c : Char) : Option Char :=
  if c = '\\' ∨ c = mark then some c
  else if c = 'n' then some '\n'
  else if c = 'r' then some '\r'
  else if c = 't' then some '\t'
  else none

/-- The text between marks, read from left to right; none if a mark, a line break or a tab stands
there by itself, or a backslash in no pair. -/
def readPairs (mark : Char) : List Char → Option (List Char)
  | [] => some []
  | '\\' :: c :: rest => (pairChar? mark c).bind fun d => (readPairs mark rest).map (d :: ·)
  | c :: rest =>
    if c ∈ ['\\', mark, '\n', '\r', '\t'] then none else (readPairs mark rest).map (c :: ·)

theorem replaceRuns_singleton (a : Char) (new text : List Char) :
    replaceRuns [a] new 0 text = text.flatMap fun c => if c = a then new else [c] := by
  induction text with
  | nil => rfl
  | cons c _ ih =>
    rw [replaceRuns, List.flatMap_cons, ← ih]
    by_cases h : c = a
    · simp [h]
    · simp [h, Ne.symm h]

section Marks

variable {mark : Char}

theorem quote_eq (hmark : IsMark mark) (s : String) :
    (quote s mark.toString).toList = mark :: s.toList.flatMap (quotedChar mark) ++ [mark] := by
  have hlist : mark.toString.toList = [mark] := by simp
  simp only [quote, replaceChars, hlist, List.isEmpty_cons, Bool.false_eq_true, if_false,
    replaceRuns_singleton, String.toList_append, String.toList_ofList, List.flatMap_assoc]
  refine congrArg (fun f => mark :: s.toList.flatMap f ++ [mark]) (funext fun c => ?_)
  unfold quotedChar
  rcases hmark with rfl | rfl <;> split_ifs <;> simp_all

theorem readPairs_quotedChar (hmark : IsMark mark) (c : Char) (rest : List Char) :
    readPairs mark (quotedChar mark c ++ rest) = (readPairs mark rest).map (c :: ·) := by
  unfold quotedChar
  rcases hmark with rfl | rfl <;> split_ifs <;> simp_all [readPairs, pairChar?]

theorem unescapeFrom_quotedChar (hmark : IsMark mark) (c : Char) (rest : List Char) :
    unescapeFrom .plain (quotedChar mark c ++ rest) = (unescapeFrom .plain rest).map (c :: ·) := by
  have hdigit : digitIn? 8 '\\' = none ∧ digitIn? 8 mark = none ∧ digitIn? 8 'n' = none ∧
      digitIn? 8 'r' = none ∧ digitIn? 8 't' = none := by
    rcases hmark with rfl | rfl <;> decide
  unfold quotedChar
  split_ifs with hpair
  · rcases hmark with rfl | rfl <;> rcases hpair with rfl | rfl <;>
      simp_all [unescapeFrom, simpleEscape]
  all_goals simp_all [unescapeFrom, simpleEscape]

theorem not_mem_quotedChar (hmark : IsMark mark) (d : Char) :
    ∀ c ∈ ['\n', '\r', '\t'], c ∉ quotedChar mark d := by
  intro c hc
  unfold quotedChar
  split_ifs with hpair
  · simp only [List.mem_cons, List.not_mem_nil, or_false] at hc
    rcases hmark with rfl | rfl <;> rcases hpair with rfl | rfl <;>
      rcases hc with rfl | rfl | rfl <;> decide
  all_goals grind

theorem readPairs_flatMap (hmark : IsMark mark) (cs : List Char) :
    readPairs mark (cs.flatMap (quotedChar mark)) = some cs := by
  induction cs with
  | nil => rfl
  | cons c _ ih => rw [List.flatMap_cons, readPairs_quotedChar hmark, ih, Option.map_some]

theorem unescapeFrom_flatMap (hmark : IsMark mark) (cs : List Char) :
    unescapeFrom .plain (cs.flatMap (quotedChar mark)) = some cs := by
  induction cs with
  | nil => rfl
  | cons c _ ih => rw [List.flatMap_cons, unescapeFrom_quotedChar hmark, ih, Option.map_some]

theorem between_quoted (hmark : IsMark mark) (s : String) :
    Syntax.between 1 (quote s mark.toString).toList = s.toList.flatMap (quotedChar mark) := by
  rw [quote_eq hmark]
  simp [Syntax.between]

/-- The first mark of a quoted text is not followed by two more, as a mark in the text is behind a
backslash. -/
theorem not_textBlock_quoted (s : String) :
    ['"', '"', '"'].isPrefixOf (quote s "\"").toList = false := by
  have hwritten := quote_eq (.inr rfl : IsMark '"') s
  rw [show Char.toString '"' = "\"" from rfl] at hwritten
  rw [hwritten]
  cases s.toList with
  | nil => rfl
  | cons c =>
    have hfirst : ∃ d tail, quotedChar '"' c = d :: tail ∧ d ≠ '"' := by
      unfold quotedChar
      split_ifs <;> simp_all
    obtain ⟨d, tail, hd, hne⟩ := hfirst
    simp [hd, List.isPrefixOf, hne.symm]

/-- A quoted text stands between two marks and holds no line break and no tab, and the pairs between
the marks give it back. So do the readers of source literals. -/
theorem quoted_read_back (hmark : IsMark mark) (s : String) :
    let written := (quote s mark.toString).toList
    written = mark :: Syntax.between 1 written ++ [mark] ∧ (∀ c ∈ ['\n', '\r', '\t'], c ∉ written) ∧
      readPairs mark (Syntax.between 1 written) = some s.toList ∧
      unescape? (.ofList (Syntax.between 1 written)) = some s ∧
      Syntax.stringValue? (quote s "\"").toList = some s.toList := by
  refine ⟨?_, fun c hc hmem => ?_, ?_, ?_, ?_⟩
  · rw [between_quoted hmark, quote_eq hmark]
  · have hne : c ≠ mark := by
      rintro rfl
      rcases hmark with rfl | rfl <;> revert hc <;> decide
    rw [quote_eq hmark] at hmem
    have hbody : c ∈ s.toList.flatMap (quotedChar mark) := by simpa [hne] using hmem
    obtain ⟨d, -, hd⟩ := List.mem_flatMap.1 hbody
    exact not_mem_quotedChar hmark d c hc hd
  · rw [between_quoted hmark, readPairs_flatMap hmark]
  · rw [unescape?, String.toList_ofList, between_quoted hmark, unescapeFrom_flatMap hmark,
      Option.map_some, String.ofList_toList]
  · have hdouble : IsMark '"' := .inr rfl
    rw [Syntax.stringValue?, not_textBlock_quoted, if_neg Bool.false_ne_true,
      show "\"" = Char.toString '"' from rfl, between_quoted hdouble, unescapeFrom_flatMap hdouble]

end Marks

theorem quoted_read_back_single :
    quote "a\\'u12\n" "'" = "'a\\\\\\'u12\\n'" ∧
      readPairs '\'' (Syntax.between 1 (quote "a\\'u12\n" "'").toList) = some "a\\'u12\n".toList :=
  ⟨by decide +kernel, (quoted_read_back (.inl rfl) "a\\'u12\n").2.2.1⟩

end TestMigration.Text
