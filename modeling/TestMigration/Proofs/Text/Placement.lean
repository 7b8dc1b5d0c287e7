import Mathlib.Data.List.Infix
import Mathlib.Data.List.Forall2
import Mathlib.Data.Nat.Find
import TestMigration.Text.Search
/-!
# Fragments one after the other in a text

Whether several patterns occur one behind the other, each later than the one before (`Placed`), is
answered by looking for each at the first possible place: a pattern found earlier leaves at least as
much room for the rest (`placed_cons_iff`).

The other half of the module says how such places come about. Patterns in different lines of a text,
in the order of the lines, are placed in it (`placed_join`), and so are those of two texts put
together with something in between (`Placed.append`).
-/

namespace TestMigration.Text

open scoped List

/-! ### Where a pattern occurs -/

/-- A text stands in another at a place. -/
def OccursAt (pat text : List Char) (i : Nat) : Prop := i ≤ text.length ∧ pat <+: text.drop i

variable {pat text : List Char} {i n : Nat}

theorem occursAt_zero : OccursAt pat text 0 ↔ pat <+: text := by simp [OccursAt]

theorem occursAt_succ {c : Char} : OccursAt pat (c :: text) (i + 1) ↔ OccursAt pat text i := by
  simp [OccursAt]

theorem OccursAt.append_right (h : OccursAt pat text i) (more : List Char) :
    OccursAt pat (text ++ more) i := by
  refine ⟨h.1.trans (by simp), ?_⟩
  rw [List.drop_append_of_le_length h.1]
  exact h.2.trans (List.prefix_append _ _)

theorem OccursAt.append_left (h : OccursAt pat text i) (before : List Char) :
    OccursAt pat (before ++ text) (before.length + i) := by
  refine ⟨by simpa using h.1, ?_⟩
  rw [List.drop_append, List.drop_eq_nil_of_le (by omega), Nat.add_sub_cancel_left]
  exact h.2

theorem exists_occursAt_iff : (∃ i, OccursAt pat text i) ↔ pat <:+: text := by
  constructor
  · rintro ⟨i, -, h⟩
    exact h.isInfix.trans (List.drop_suffix i text).isInfix
  · rintro ⟨before, after, rfl⟩
    refine ⟨before.length, ?_⟩
    have h := (occursAt_zero.mpr (List.prefix_append pat after)).append_left before
    simpa [List.append_assoc] using h

/-! ### Searching -/

/-- **A search gives the first place.** -/
theorem indexOf?_eq_some_iff :
    indexOf? pat text = some i ↔ OccursAt pat text i ∧ ∀ j < i, ¬OccursAt pat text j := by
  induction text generalizing i with
  | nil =>
    rw [indexOf?]
    cases pat with
    | nil =>
      simp only [List.isEmpty_nil, if_true, Option.some.injEq, OccursAt, List.nil_prefix, and_true,
        List.length_nil, Nat.le_zero]
      constructor
      · rintro rfl
        exact ⟨rfl, by simp⟩
      · exact fun h => h.1.symm
    | cons c rest => simp [OccursAt]
  | cons c rest ih =>
    rw [indexOf?]
    by_cases hpat : pat.isPrefixOf (c :: rest) = true
    · rw [if_pos hpat]
      have hzero := occursAt_zero.mpr ( List.isPrefixOf_iff_prefix.mp hpat)
      constructor
      · rintro ⟨⟩
        exact ⟨hzero, by simp⟩
      · rintro ⟨-, hfirst⟩
        cases i with
        | zero => rfl
        | succ i => exact absurd hzero (hfirst 0 (Nat.succ_pos i))
    · rw [if_neg hpat]
      rw [ List.isPrefixOf_iff_prefix, ← occursAt_zero] at hpat
      cases i with
      | zero => simpa using fun h => absurd h hpat
      | succ i =>
        simp only [Option.map_eq_some_iff, Nat.add_right_cancel_iff, exists_eq_right, ih,
          occursAt_succ]
        refine and_congr_right fun _ => ⟨fun h j hj => ?_, fun h j hj => ?_⟩
        · cases j with
          | zero => exact hpat
          | succ j => exact occursAt_succ.not.mpr (h j (Nat.lt_of_succ_lt_succ hj))
        · exact occursAt_succ.not.mp (h (j + 1) (Nat.succ_lt_succ hj))

theorem indexOf?_eq_none_iff : indexOf? pat text = none ↔ ∀ i, ¬OccursAt pat text i := by
  constructor
  · intro hnone i hoccurs
    classical
    have hsome : ∃ i, OccursAt pat text i := ⟨i, hoccurs⟩
    have hfirst := indexOf?_eq_some_iff.mpr ⟨Nat.find_spec hsome, fun _ => Nat.find_min hsome⟩
    rw [hnone] at hfirst
    cases hfirst
  · intro hnone
    rw [Option.eq_none_iff_forall_ne_some]
    exact fun i hsome => hnone i (indexOf?_eq_some_iff.mp hsome).1

theorem occursIn_iff {pat text : String} :
    occursIn pat text = true ↔ pat.toList <:+: text.toList := by
  rw [← exists_occursAt_iff, occursIn, ← not_iff_not, Bool.not_eq_true, Option.isSome_eq_false_iff,
    Option.isNone_iff_eq_none, indexOf?_eq_none_iff, not_exists]

theorem occursAt_drop (h : n ≤ text.length) :
    OccursAt pat (text.drop n) i ↔ OccursAt pat text (i + n) := by
  rw [OccursAt, List.length_drop, List.drop_drop, Nat.add_comm n i]
  exact and_congr_left fun _ => by omega

theorem findFrom_eq_none_iff : findFrom pat text n = none ↔ ∀ j, n ≤ j → ¬OccursAt pat text j := by
  rw [findFrom]
  by_cases hn : n ≤ text.length
  · rw [if_pos hn, Option.map_eq_none_iff, indexOf?_eq_none_iff]
    constructor
    · intro h j hj hoccurs
      refine h (j - n) ((occursAt_drop hn).mpr ?_)
      rwa [Nat.sub_add_cancel hj]
    · exact fun h j hoccurs => h (j + n) (Nat.le_add_left n j) ((occursAt_drop hn).mp hoccurs)
  · rw [if_neg hn]
    exact iff_of_true rfl fun j hj hoccurs => hn (hj.trans hoccurs.1)

theorem findFrom_eq_some_iff : findFrom pat text n = some i ↔
    n ≤ i ∧ OccursAt pat text i ∧ ∀ j, n ≤ j → j < i → ¬OccursAt pat text j := by
  rw [findFrom]
  by_cases hn : n ≤ text.length
  · rw [if_pos hn, Option.map_eq_some_iff]
    constructor
    · rintro ⟨k, hk, rfl⟩
      obtain ⟨hoccurs, hfirst⟩ := indexOf?_eq_some_iff.mp hk
      refine ⟨Nat.le_add_left n k, (occursAt_drop hn).mp hoccurs, fun j hj hlt h => ?_⟩
      refine hfirst (j - n) (by omega) ((occursAt_drop hn).mpr ?_)
      rwa [Nat.sub_add_cancel hj]
    · rintro ⟨hle, hoccurs, hfirst⟩
      refine ⟨i - n, indexOf?_eq_some_iff.mpr ⟨(occursAt_drop hn).mpr ?_, fun j hj h => ?_⟩,
        Nat.sub_add_cancel hle⟩
      · rwa [Nat.sub_add_cancel hle]
      · exact hfirst (j + n) (Nat.le_add_left n j) (by omega) ((occursAt_drop hn).mp h)
  · rw [if_neg hn]
    exact iff_of_false (by simp) fun h => hn (h.1.trans h.2.1.1)

/-! ### Patterns one after the other -/

/-- Patterns occur in a text from a position on, each later than the one before. -/
def Placed (text : List Char) : Nat → List (List Char) → Prop
  | _, [] => True
  | start, pat :: rest => ∃ i, start ≤ i ∧ OccursAt pat text i ∧ Placed text (i + 1) rest

variable {pats pats' : List (List Char)}

theorem Placed.of_le (h : Placed text n pats) (hle : i ≤ n) : Placed text i pats := by
  cases pats with
  | nil => trivial
  | cons =>
    obtain ⟨k, hk, hoccurs, hrest⟩ := h
    exact ⟨k, hle.trans hk, hoccurs, hrest⟩

/-- **Each pattern may be looked for at the first possible place.** -/
theorem placed_cons_iff :
    Placed text n (pat :: pats) ↔ ∃ i, findFrom pat text n = some i ∧ Placed text (i + 1) pats := by
  constructor
  · rintro ⟨k, hk, hoccurs, hrest⟩
    cases hfind : findFrom pat text n with
    | none => exact absurd hoccurs (findFrom_eq_none_iff.mp hfind k hk)
    | some i =>
      obtain ⟨-, -, hfirst⟩ := findFrom_eq_some_iff.mp hfind
      have hle : i ≤ k := Nat.le_of_not_lt fun hlt => hfirst k hk hlt hoccurs
      exact ⟨i, rfl, hrest.of_le (Nat.succ_le_succ hle)⟩
  · rintro ⟨i, hfind, hrest⟩
    obtain ⟨hle, hoccurs, -⟩ := findFrom_eq_some_iff.mp hfind
    exact ⟨i, hle, hoccurs, hrest⟩

/-- Patterns are placed if they occur at growing positions. -/
theorem placed_iff_exists_places : Placed text n pats ↔ ∃ places : List Nat, (∀ i ∈ places, n ≤ i) ∧
    places.Pairwise (· < ·) ∧ List.Forall₂ (fun pat i => OccursAt pat text i) pats places := by
  induction pats generalizing n with
  | nil => exact iff_of_true trivial ⟨[], by simp⟩
  | cons pat _ ih =>
    constructor
    · rintro ⟨i, hle, hoccurs, hrest⟩
      obtain ⟨places, hfrom, hgrow, hplaces⟩ := ih.mp hrest
      refine ⟨i :: places, List.forall_mem_cons.mpr ⟨hle, fun j hj => ?_⟩,
        List.pairwise_cons.mpr ⟨hfrom, hgrow⟩, .cons hoccurs hplaces⟩
      exact (hle.trans (Nat.le_succ i)).trans (hfrom j hj)
    · rintro ⟨_, hfrom, hgrow, hplaces⟩
      obtain ⟨i, places, hoccurs, hrest, rfl⟩ := List.forall₂_cons_left_iff.mp hplaces
      obtain ⟨hfirst, hgrow⟩ := List.pairwise_cons.mp hgrow
      exact ⟨i, hfrom i List.mem_cons_self, hoccurs, ih.mpr ⟨places, hfirst, hgrow, hrest⟩⟩

theorem Placed.sublist (h : Placed text n pats) (hsub : pats' <+ pats) : Placed text n pats' := by
  induction hsub generalizing n with
  | slnil => trivial
  | cons pat hsub ih =>
    obtain ⟨i, hle, -, hrest⟩ := h
    exact (ih hrest).of_le (hle.trans (Nat.le_succ i))
  | cons_cons pat hsub ih =>
    obtain ⟨i, hle, hoccurs, hrest⟩ := h
    exact ⟨i, hle, hoccurs, ih hrest⟩

theorem Placed.append_right (h : Placed text n pats) (more : List Char) :
    Placed (text ++ more) n pats := by
  induction pats generalizing n with
  | nil => trivial
  | cons _ _ ih =>
    obtain ⟨i, hle, hoccurs, hrest⟩ := h
    exact ⟨i, hle, hoccurs.append_right more, ih hrest⟩

theorem Placed.append_left (h : Placed text n pats) (before : List Char) :
    Placed (before ++ text) (before.length + n) pats := by
  induction pats generalizing n with
  | nil => trivial
  | cons _ _ ih =>
    obtain ⟨i, _, hoccurs, hrest⟩ := h
    exact ⟨before.length + i, by omega, hoccurs.append_left before, ih hrest⟩

/-- The patterns of two texts are placed in both together, if something stands in between. -/
theorem Placed.append {sep after : List Char} (h : Placed text n pats) (hn : n ≤ text.length + 1)
    (hsep : sep ≠ []) (h' : Placed after 0 pats') :
    Placed (text ++ sep ++ after) n (pats ++ pats') := by
  induction pats generalizing n with
  | nil =>
    have hlength : 0 < sep.length := List.length_pos_iff.mpr hsep
    refine (h'.append_left (text ++ sep)).of_le ?_
    rw [List.length_append]
    omega
  | cons _ _ ih =>
    -- A place in the first text leaves the start of the next search within that text, or just
    -- behind it.
    obtain ⟨i, hle, hoccurs, hrest⟩ := h
    refine ⟨i, hle, (hoccurs.append_right sep).append_right after, ih hrest ?_⟩
    exact Nat.succ_le_succ hoccurs.1

theorem placed_singleton (h : pat <:+: text) : Placed text 0 [pat] := by
  obtain ⟨i, hoccurs⟩ := exists_occursAt_iff.mpr h
  exact ⟨i, Nat.zero_le i, hoccurs, trivial⟩

theorem Placed.occurs (h : Placed text n pats) (hpat : pat ∈ pats) : pat <:+: text := by
  obtain ⟨i, -, hoccurs, -⟩ := h.sublist (List.singleton_sublist.mpr hpat)
  exact exists_occursAt_iff.mp ⟨i, hoccurs⟩

/-! ### Lines -/

theorem toList_join_cons_cons (sep s t : String) (rest : List String) :
    (join sep (s :: t :: rest)).toList =
      s.toList ++ sep.toList ++ (join sep (t :: rest)).toList := by
  simp [join]

/-- Texts one after the other, each with patterns placed in it. -/
theorem placed_join {sep : String} (hsep : sep.toList ≠ []) {texts : List String}
    {found : List (List (List Char))}
    (h : List.Forall₂ (fun pats (s : String) => Placed s.toList 0 pats) found texts) :
    Placed (join sep texts).toList 0 found.flatten := by
  induction h with
  | nil => trivial
  | @cons pats s found texts hfirst hrest ih =>
    cases texts with
    | nil =>
      cases hrest
      simpa [join] using hfirst
    | cons t =>
      rw [toList_join_cons_cons]
      exact hfirst.append (Nat.zero_le _) hsep ih

end TestMigration.Text
