import Mathlib.Data.List.DropRight
import Mathlib.Data.List.Forall2
import Mathlib.Data.Nat.Digits.Defs
import Mathlib.Tactic.MkIffOfInductiveProp
import TestMigration.Number.Literal
/-!
# Integer literals stand for their digits

Underscores and the mark of a long integer are dropped, what is left starts with the mark of its
base, and the rest is read digit by digit. No digit can be taken for anything that may stand around
digits (`Plain`), so what is read is the number that they stand for.
-/

namespace TestMigration.Number

open Text

/-- The characters that stand for a digit. -/
def digitChars (d : Nat) : List Char :=
  ("0123456789abcdef".toList[d]?).toList ++ ("0123456789ABCDEF".toList[d]?).toList

/-- A text has these digits, with underscores anywhere. -/
def Spells (base : Nat) (ds : List Nat) (text : List Char) : Prop :=
  ds ≠ [] ∧ ds.Forall₂ (fun d c => d < base ∧ c ∈ digitChars d) (text.filter (· != '_'))

/-- What may follow the digits: the mark of a long integer. -/
def longMarks : List (List Char) := [[], ['l'], ['L']]

/-- The letters after a zero that announce a base. -/
def marks : List (Nat × Char) := [(16, 'x'), (16, 'X'), (2, 'b'), (2, 'B')]

/-- The spellings of a number in the source language: decimal without a further zero in front, with
the mark of a base, or octal behind a zero. -/
inductive Spelling : Nat → List Char → Prop
  | decimal {ds text} :
      Spells 10 ds text → ds.head? ≠ some 0 ∨ ds = [0] → ds.length ≤ maxDecimalDigits →
    Spelling (Nat.ofDigits 10 ds.reverse) text
  | marked {base mark ds text} : (base, mark) ∈ marks → Spells base ds text →
    Spelling (Nat.ofDigits base ds.reverse) ('0' :: mark :: text)
  | octal {ds text} : Spells 8 (0 :: ds) text → ds ≠ [] → Spelling (Nat.ofDigits 8 ds.reverse) text

variable {base d : Nat} {c : Char} {ds : List Nat} {text cs suffix : List Char}

/-- A character is read as a digit, and is nothing that may stand around digits. -/
@[mk_iff]
structure Plain (d : Nat) (c : Char) : Prop where
  value : digitValue? c = some d
  usual : plainDigit c = c
  not_blank : isBlank c = false
  not_sign : c ∉ ['_', '-', '+']
  not_long : (c == 'l' || c == 'L') = false
  not_mark : c.toLower ∉ ['x', 'o'] ∧ (d < 10 → c.toLower ≠ 'b')
  zero : c = '0' ↔ d = 0

instance : Decidable (Plain d c) := decidable_of_iff' _ (plain_iff d c)

theorem plain_digitChars (hd : d < 16) (hc : c ∈ digitChars d) : Plain d c := by
  have hall : (List.range 16).all (fun d => (digitChars d).all fun c => decide (Plain d c)) =
    true := by decide
  exact of_decide_eq_true
    (List.all_eq_true.mp (List.all_eq_true.mp hall d (List.mem_range.mpr hd)) c hc)

theorem trimRightChars_self {p : Char → Bool} (h : ∀ c ∈ cs, p c = false) :
    trimRightChars p cs = cs :=
  List.rdropWhile_eq_self_iff.mpr fun hne => by simp [h _ (List.getLast_mem hne)]

/-- Characters that are read as digits of a base, one by one. -/
structure Written (base : Nat) (ds : List Nat) (cs : List Char) : Prop where
  ne_nil : ds ≠ []
  digits : ds.Forall₂ (fun d c => d < base ∧ Plain d c) cs

theorem Spells.written (hbase : base ≤ 16) (h : Spells base ds text) :
    Written base ds (text.filter (· != '_')) :=
  ⟨h.1, h.2.imp fun _ _ hd => ⟨hd.1, plain_digitChars (hd.1.trans_le hbase) hd.2⟩⟩

namespace Written

theorem forall_mem {P : Char → Prop} (h : Written base ds cs) (hP : ∀ d c, Plain d c → P c) :
    ∀ c ∈ cs, P c := by
  obtain ⟨-, h⟩ := h
  induction h with
  | nil => exact List.forall_mem_nil _
  | cons hd _ ih => exact List.forall_mem_cons.mpr ⟨hP _ _ hd.2, ih⟩

theorem natIn? (h : Written base ds cs) : natIn? base cs = some (Nat.ofDigits base ds.reverse) := by
  obtain ⟨hne, h⟩ := h
  have hgo (v : Nat) : ofDigits?.go base v cs = some (ds.foldl (fun v d => d + base * v) v) := by
    clear hne
    induction h generalizing v with
    | nil => rfl
    | cons hd _ ih =>
      simp [ofDigits?.go, digitIn?, hd.2.value, Option.filter, hd.1, ih, Nat.add_comm, Nat.mul_comm]
  have hcs : ¬ cs.isEmpty := by
    cases h <;> simp_all
  rw [Number.natIn?, if_neg hcs, Text.ofDigits?, hgo, Nat.ofDigits_eq_foldr, List.foldr_reverse]
  rfl

theorem not_long (h : Written base ds cs) : ∀ c ∈ cs, (c == 'l' || c == 'L') = false :=
  h.forall_mem fun _ _ h => h.not_long

theorem unsigned (h : Written base ds cs) (digits : List Char) :
    cs ≠ '-' :: digits ∧ cs ≠ '+' :: digits := by
  have hsign := h.forall_mem fun _ _ h => h.not_sign
  constructor <;> rintro rfl <;> simp at hsign

theorem plainNumeral (h : Written base ds cs) : plainNumeral cs = cs := by
  have hblank := h.forall_mem fun _ _ h => h.not_blank
  have hleft : trimLeftChars isBlank cs = cs :=
    List.dropWhile_eq_self_iff.mpr fun h => by simp [hblank _ (List.getElem_mem h)]
  rw [Text.plainNumeral, trimChars, hleft, trimRightChars_self hblank,
    List.map_congr_left (h.forall_mem fun _ _ h => h.usual), List.map_id']

theorem markedIn? (h : Written base ds cs) (hbase : base = 16 ∨ base ≤ 10) :
    markedIn? base (Text.plainNumeral cs) = some ((Nat.ofDigits base ds.reverse : Nat) : Int) := by
  have hdrop : dropBaseMark base cs = cs := by
    unfold dropBaseMark
    split
    case h_1 c digits =>
      obtain _ | ⟨_, _ | ⟨hd, _⟩⟩ := h.digits
      have hmark : baseMark? base ≠ some c.toLower := by
        have := hd.2.not_mark
        unfold baseMark?
        split <;> grind
      rw [if_neg (by simpa using hmark)]
    case h_2 => rfl
  rw [h.plainNumeral, Number.markedIn?, hdrop, h.natIn?]
  · rfl
  · exact fun digits => (h.unsigned digits).1
  · exact fun digits => (h.unsigned digits).2

theorem decimal? (h : Written 10 ds cs) (hlength : ds.length ≤ maxDecimalDigits) :
    decimal? (Text.plainNumeral cs) = some ((Nat.ofDigits 10 ds.reverse : Nat) : Int) := by
  have hfew : (cs.filter Char.isDigit).length ≤ maxDecimalDigits :=
    (List.length_filter_le ..).trans (h.digits.length_eq ▸ hlength)
  rw [h.plainNumeral, Number.decimal?, if_neg (by omega), signedIn?, h.natIn?]
  · rfl
  · exact fun digits => (h.unsigned digits).1
  · exact fun digits => (h.unsigned digits).2

end Written

theorem bareDigits_append (hsuffix : suffix ∈ longMarks) (hcs : text.filter (· != '_') = cs)
    (hshort : ∀ c ∈ cs, (c == 'l' || c == 'L') = false) : bareDigits (text ++ suffix) = cs := by
  have hself := trimRightChars_self hshort
  rw [bareDigits, List.filter_append, hcs]
  simp only [longMarks, List.mem_cons, List.not_mem_nil, or_false] at hsuffix
  rcases hsuffix with rfl | rfl | rfl
  · rwa [List.filter_nil, List.append_nil]
  · exact (List.rdropWhile_concat_pos _ _ _ rfl).trans hself
  · exact (List.rdropWhile_concat_pos _ _ _ rfl).trans hself

theorem Spells.integer?_marked {mark : Char} (h : Spells base ds text)
    (hmark : (base, mark) ∈ marks) (hsuffix : suffix ∈ longMarks) :
    integer? ('0' :: mark :: text ++ suffix) =
      some ((Nat.ofDigits base ds.reverse : Nat) : Int) := by
  have hmarks : ∀ m ∈ marks, (m.1 = 16 ∨ m.1 ≤ 10) ∧ m.1 ≤ 16 ∧ (m.2 != '_') = true ∧
      (m.2 == 'l' || m.2 == 'L') = false := by decide
  obtain ⟨hbase, hle, hkept, hshort⟩ := hmarks _ hmark
  dsimp only at hbase hle hkept hshort
  have hw := h.written hle
  have hread := hw.markedIn? hbase
  have hbare : bareDigits ('0' :: mark :: text ++ suffix) =
      '0' :: mark :: text.filter (· != '_') := by
    refine bareDigits_append hsuffix (by simp [hkept]) ?_
    exact List.forall_mem_cons.mpr ⟨rfl, List.forall_mem_cons.mpr ⟨hshort, hw.not_long⟩⟩
  rw [integer?, hbare]
  simp only [marks, List.mem_cons, List.not_mem_nil, or_false, Prod.mk.injEq] at hmark
  rcases hmark with ⟨rfl, rfl⟩ | ⟨rfl, rfl⟩ | ⟨rfl, rfl⟩ | ⟨rfl, rfl⟩ <;> exact hread

theorem Spells.integer?_decimal (h : Spells 10 ds text) (hzero : ds.head? ≠ some 0 ∨ ds = [0])
    (hlength : ds.length ≤ maxDecimalDigits) (hsuffix : suffix ∈ longMarks) :
    integer? (text ++ suffix) = some ((Nat.ofDigits 10 ds.reverse : Nat) : Int) := by
  have hw := h.written (by decide)
  rw [integer?, bareDigits_append hsuffix rfl hw.not_long, ← hw.decimal? hlength]
  have hmark : ∀ c rest, text.filter (· != '_') ≠ '0' :: c :: rest := by
    intro c rest hcs
    obtain _ | ⟨⟨_, hd⟩, _ | _⟩ := hcs ▸ hw.digits
    have := hd.zero
    simp_all
  split
  case h_6 => rfl
  all_goals exact absurd (by assumption) (hmark _ _)

theorem Spells.integer?_octal (h : Spells 8 (0 :: ds) text) (hne : ds ≠ [])
    (hsuffix : suffix ∈ longMarks) :
    integer? (text ++ suffix) = some ((Nat.ofDigits 8 ds.reverse : Nat) : Int) := by
  have hw := h.written (by decide)
  rw [integer?, bareDigits_append hsuffix rfl hw.not_long]
  obtain ⟨_, hw⟩ := hw
  generalize text.filter (· != '_') = cs at hw
  obtain _ | ⟨⟨_, hd⟩, hw⟩ := hw
  obtain rfl := hd.zero.mpr rfl
  have hread := Written.markedIn? ⟨hne, hw⟩ (by decide)
  obtain _ | ⟨⟨hlt, hd⟩, _⟩ := hw
  · exact absurd rfl hne
  · have hmark := hd.not_mark.1
    have hbinary := hd.not_mark.2 (by omega)
    split <;> simp_all

/-- **Integer literals are read by their digits.** A literal in any of its spellings, perhaps marked
as long, is read as the number that its digits stand for. -/
theorem integer?_spelling {n : Nat} (h : Spelling n text) (hsuffix : suffix ∈ longMarks) :
    integer? (text ++ suffix) = some (n : Int) := by
  cases h with
  | decimal h hzero hlength => exact h.integer?_decimal hzero hlength hsuffix
  | marked hmark h => exact h.integer?_marked hmark hsuffix
  | octal h hne => exact h.integer?_octal hne hsuffix

theorem integer?_spelling_hexadecimal :
    Spelling 2989 "0XB_aD".toList ∧ integer? "0XB_aDL".toList = some 2989 := by
  have hspells : Spells 16 [11, 10, 13] "B_aD".toList := ⟨by decide, by simp [digitChars]⟩
  have h : Spelling 2989 "0XB_aD".toList := .marked (by decide) hspells
  have hlong : ['L'] ∈ longMarks := by decide
  exact ⟨h, integer?_spelling h hlong⟩

end TestMigration.Number
