import Mathlib.Data.List.Count
import TestMigration.Proofs.Text.Placement
/-!
# Copies of a pattern in a text

How many times a pattern occurs in a text without overlaps (`Copies`). Places one behind the other
are not yet that, because they may be closer than the pattern is long. They are if the pattern
cannot overlap itself (`Placed.copies`).

For the other direction, a text is put together from lines. If the pattern has no line break and
lies in no line but itself, there are not more copies of it than lines that are it
(`Copies.le_count`). And lists of lines can share these: some list of lines has all of them in it,
with the pattern as often as in the one that has it most (`exists_shared`).
-/

namespace TestMigration.Text

open scoped List

variable {pat text : List Char} {n : Nat}

/-! ### Copies -/

/-- A pattern occurs so often in a text, each time behind the end of the last. -/
inductive Copies (pat : List Char) : Nat → List Char → Prop where
  | none (text : List Char) : Copies pat 0 text
  | next (before : List Char) {n : Nat} {rest : List Char} :
      Copies pat n rest → Copies pat (n + 1) (before ++ (pat ++ rest))

namespace Copies

theorem append_left (h : Copies pat n text) (more : List Char) : Copies pat n (more ++ text) := by
  cases h with
  | none => exact .none _
  | next _ hrest =>
    rw [← List.append_assoc]
    exact .next _ hrest

theorem mono (h : Copies pat n text) {m : Nat} (hle : m ≤ n) : Copies pat m text := by
  induction h generalizing m with
  | none text =>
    rw [Nat.le_zero.mp hle]
    exact .none text
  | next before _ ih =>
    cases m with
    | zero => exact .none _
    | succ m => exact .next before (ih (Nat.le_of_succ_le_succ hle))

theorem occurs (h : Copies pat n text) (hn : 0 < n) : pat <:+: text := by
  cases h with
  | none => omega
  | next before => exact ⟨before, _, List.append_assoc ..⟩

theorem length_le (h : Copies pat n text) : n * pat.length ≤ text.length := by
  induction h with
  | none => simp
  | next =>
    rw [Nat.succ_mul, List.length_append, List.length_append]
    omega

theorem le_countP_tails (h : Copies pat n text) (hne : pat ≠ []) :
    n ≤ text.tails.countP (pat.isPrefixOf ·) := by
  have hmore : ∀ before rest : List Char,
      rest.tails.countP (pat.isPrefixOf ·) ≤ (before ++ rest).tails.countP (pat.isPrefixOf ·) := by
    intro before rest
    induction before with
    | nil => exact le_rfl
    | cons c before ih =>
      rw [List.cons_append, List.tails_cons, List.countP_cons]
      omega
  induction h with
  | none => exact Nat.zero_le _
  | @next before n rest _ ih =>
    refine Nat.le_trans ?_ (hmore before (pat ++ rest))
    obtain ⟨c, cs, rfl⟩ := List.exists_cons_of_ne_nil hne
    have hbehind := hmore cs rest
    have hfirst : (c :: cs).isPrefixOf (c :: (cs ++ rest)) = true :=
      List.isPrefixOf_iff_prefix.mpr ⟨rest, rfl⟩
    rw [List.cons_append, List.tails_cons, List.countP_cons, if_pos hfirst]
    omega

end Copies

theorem copies_one_of_occurs (h : pat <:+: text) : Copies pat 1 text := by
  obtain ⟨before, after, rfl⟩ := h
  rw [List.append_assoc]
  exact .next before (.none after)

/-! ### Patterns that cannot overlap themselves -/

/-- No proper end of a pattern is a beginning of it. -/
def Unbordered (pat : List Char) : Prop := ∀ d < pat.length, 0 < d → ¬pat.drop d <+: pat

instance : DecidablePred Unbordered := fun pat =>
  inferInstanceAs (Decidable (∀ d < pat.length, 0 < d → ¬pat.drop d <+: pat))

theorem Unbordered.add_length_le (h : Unbordered pat) {i j : Nat} (hi : OccursAt pat text i)
    (hj : OccursAt pat text j) (hlt : i < j) : i + pat.length ≤ j := by
  by_contra hclose
  refine h (j - i) (by omega) (by omega) ?_
  -- The end of the first copy and the beginning of the second one stand at the same place.
  have hend : pat.drop (j - i) <+: text.drop j := by
    have hdrop := hi.2.drop (j - i)
    rwa [List.drop_drop, Nat.add_sub_cancel' hlt.le] at hdrop
  exact List.prefix_of_prefix_length_le hend hj.2 (by simp)

theorem Placed.copies_replicate (h : Unbordered pat) {start : Nat}
    (hplaced : Placed text start (List.replicate n pat)) : Copies pat n (text.drop start) := by
  induction n generalizing start with
  | zero => exact .none _
  | succ n ih =>
    obtain ⟨i, hstart, hoccurs, hrest⟩ := hplaced
    have hbehind : Placed text (i + pat.length) (List.replicate n pat) := by
      cases n with
      | zero => trivial
      | succ n =>
        obtain ⟨j, hlt, hnext, hothers⟩ := hrest
        exact ⟨j, h.add_length_le hoccurs hnext hlt, hnext, hothers⟩
    obtain ⟨_, hafter⟩ := hoccurs.2
    have htext : text.drop start = (text.drop start).take (i - start) ++
        (pat ++ text.drop (i + pat.length)) := by
      rw [← List.drop_drop, ← hafter, List.drop_left, hafter]
      conv_lhs => rw [← List.take_append_drop (i - start) (text.drop start)]
      rw [List.drop_drop, Nat.add_sub_cancel' hstart]
    rw [htext]
    exact .next _ (ih hbehind)

/-- **Places of a pattern that cannot overlap itself are copies.** -/
theorem Placed.copies (h : Unbordered pat) {start : Nat} {pats : List (List Char)}
    (hplaced : Placed text start pats) : Copies pat (pats.count pat) text := by
  have hsub : List.replicate (pats.count pat) pat <+ pats := List.replicate_sublist_iff.mpr le_rfl
  have hcopies := Placed.copies_replicate h (hplaced.sublist hsub)
  have hall := hcopies.append_left (text.take start)
  rwa [List.take_append_drop] at hall

/-! ### Copies in lines -/

theorem Copies.split (h : Copies pat n text) (hne : pat ≠ []) {c : Char} (hc : c ∉ pat)
    {line rest : List Char} (htext : text = line ++ c :: rest) :
    ∃ a b, n = a + b ∧ Copies pat a line ∧ Copies pat b rest := by
  induction h generalizing line with
  | none => exact ⟨0, 0, rfl, .none _, .none _⟩
  | @next before n after hafter ih =>
    rcases List.append_eq_append_iff.mp htext with ⟨_, rfl, hinner⟩ | ⟨beyond, rfl, hbeyond⟩
    · rcases List.append_eq_append_iff.mp hinner with ⟨_, rfl, hleft⟩ | ⟨right, hright, hrest⟩
      · obtain ⟨a, b, rfl, ha, hb⟩ := ih hleft
        exact ⟨a + 1, b, by omega, .next before ha, hb⟩
      · cases right with
        | nil =>
          rw [List.append_nil] at hright
          obtain ⟨a, b, rfl, ha, hb⟩ := ih (show after = [] ++ c :: rest from hrest.symm)
          refine ⟨a + 1, b, by omega, ?_, hb⟩
          rw [← hright]
          simpa using Copies.next before ha
        | cons d right =>
          obtain ⟨rfl, -⟩ := List.cons.inj hrest
          exact absurd (hright ▸ List.mem_append_right _ List.mem_cons_self) hc
    · cases beyond with
      | nil =>
        cases pat with
        | nil => exact absurd rfl hne
        | cons d pat =>
          obtain ⟨rfl, -⟩ := List.cons.inj hbeyond
          exact absurd List.mem_cons_self hc
      | cons d beyond =>
        obtain ⟨-, rfl⟩ := List.cons.inj hbeyond
        exact ⟨0, n + 1, by omega, .none _, .next beyond hafter⟩

section Lines

variable {f : String}

/-- One line has a copy if it is the pattern, and none otherwise. -/
theorem Copies.le_one (hne : f.toList ≠ []) {line : String}
    (hline : line ≠ f → ¬f.toList <:+: line.toList)
    (h : Copies f.toList n line.toList) : n ≤ [line].count f := by
  by_cases heq : line = f
  · subst heq
    have hlength := h.length_le
    have hpos := List.length_pos_iff.mpr hne
    rw [List.count_cons_self, List.count_nil]
    exact Nat.le_of_mul_le_mul_right (by omega) hpos
  · refine Nat.le_trans (Nat.le_of_not_lt fun hpos => ?_) (Nat.zero_le _)
    exact hline heq (h.occurs hpos)

/-- **There are no more copies of a line than lines that are it**, if it lies in no other. -/
theorem Copies.le_count (hne : f.toList ≠ []) (hbreak : '\n' ∉ f.toList) {lines : List String}
    (hlines : ∀ line ∈ lines, line ≠ f → ¬f.toList <:+: line.toList)
    (h : Copies f.toList n (join "\n" lines).toList) : n ≤ lines.count f := by
  induction lines generalizing n with
  | nil =>
    have hlength := h.length_le
    have hpos := List.length_pos_iff.mpr hne
    have hzero : n * f.toList.length = 0 := Nat.le_zero.mp hlength
    have hn := (Nat.mul_eq_zero.mp hzero).resolve_right (by omega)
    omega
  | cons line rest ih =>
    have hfirst := fun {n} => Copies.le_one (n := n) hne (hlines line List.mem_cons_self)
    have ih := fun {n} => ih (n := n) fun other hother =>
      hlines other (List.mem_cons_of_mem _ hother)
    cases rest with
    | nil => exact hfirst (by simpa [join] using h)
    | cons other rest =>
      rw [toList_join_cons_cons] at h
      obtain ⟨a, b, rfl, ha, hb⟩ := h.split hne hbreak (List.append_assoc ..)
      have hline := hfirst ha
      have hothers := ih hb
      rw [List.count_cons, List.count_nil] at hline
      rw [List.count_cons]
      omega

end Lines

theorem placed_lines (lines : List String) :
    Placed (join "\n" lines).toList 0 (lines.map String.toList) := by
  have hfound : List.Forall₂ (fun pats (line : String) => Placed line.toList 0 pats)
      (lines.map fun line => [line.toList]) lines := by
    induction lines with
    | nil => exact .nil
    | cons line _ ih => exact .cons (placed_singleton (List.infix_refl _)) ih
  have hbreak : "\n".toList ≠ [] := by decide
  have hplaced := placed_join hbreak hfound
  rwa [← List.flatMap_def, ← List.map_eq_flatMap] at hplaced

/-! ### Shared lines -/

section Shared

variable {α : Type} [DecidableEq α] (x : α)

/-- What stands before the first time an item is in a list. -/
def headAt (l : List α) : List α := l.takeWhile (· ≠ x)

/-- What stands behind it. -/
def tailAt (l : List α) : List α := (l.dropWhile (· ≠ x)).tail

theorem not_mem_headAt (l : List α) : x ∉ headAt x l := fun hx => by
  simpa using List.all_eq_true.mp List.all_takeWhile x hx

theorem eq_headAt_or (l : List α) :
    l = headAt x l ∧ tailAt x l = [] ∨ l = headAt x l ++ x :: tailAt x l := by
  have hcut : headAt x l ++ l.dropWhile (· ≠ x) = l := List.takeWhile_append_dropWhile
  unfold tailAt
  cases hrest : l.dropWhile (· ≠ x) with
  | nil =>
    rw [hrest, List.append_nil] at hcut
    exact .inl ⟨hcut.symm, rfl⟩
  | cons y =>
    have hhead := List.head?_dropWhile_not (· ≠ x) l
    rw [hrest] at hhead
    have hy : y = x := by simpa using hhead
    rw [hrest, hy] at hcut
    exact .inr hcut.symm

/-- **Lists can share an item.** Some list holds each of them, and the item as often as any of them
may have it. -/
theorem exists_shared {lists : List (List α)} {n : Nat} (h : ∀ l ∈ lists, l.count x ≤ n) :
    ∃ shared : List α, shared.count x = n ∧ (∀ l ∈ lists, l <+ shared) ∧
      ∀ y ∈ shared, y = x ∨ ∃ l ∈ lists, y ∈ l := by
  induction n generalizing lists with
  | zero =>
    have hnone : ∀ l ∈ lists, x ∉ l := fun l hl => List.count_eq_zero.mp (Nat.le_zero.mp (h l hl))
    refine ⟨lists.flatten, ?_, fun l hl => List.sublist_flatten_of_mem hl, fun y hy => ?_⟩
    · exact List.count_eq_zero.mpr fun hx => by
        obtain ⟨l, hl, hxl⟩ := List.mem_flatten.mp hx
        exact hnone l hl hxl
    · exact .inr (List.mem_flatten.mp hy)
  | succ n ih =>
    -- Each list is cut at the item. What stands before it comes first, and the item is then shared.
    have htails : ∀ l ∈ lists.map (tailAt x), l.count x ≤ n := by
      intro tail htail
      obtain ⟨l, hl, rfl⟩ := List.mem_map.mp htail
      have hcount := h l hl
      rcases eq_headAt_or x l with ⟨-, hnil⟩ | hcut
      · simp [hnil]
      · rw [hcut, List.count_append, List.count_cons_self] at hcount
        omega
    obtain ⟨shared, hcount, hsub, hmem⟩ := ih htails
    have hheads : x ∉ (lists.map (headAt x)).flatten := fun hx => by
      obtain ⟨head, hhead, hxhead⟩ := List.mem_flatten.mp hx
      obtain ⟨l, -, rfl⟩ := List.mem_map.mp hhead
      exact not_mem_headAt x l hxhead
    refine ⟨(lists.map (headAt x)).flatten ++ x :: shared, ?_, fun l hl => ?_, fun y hy => ?_⟩
    · rw [List.count_append, List.count_cons_self, List.count_eq_zero.mpr hheads]
      omega
    · have hhead := List.sublist_flatten_of_mem (List.mem_map_of_mem (f := headAt x) hl)
      rcases eq_headAt_or x l with ⟨hl', -⟩ | hcut
      · rw [hl']
        exact hhead.trans (List.sublist_append_left _ _)
      · rw [hcut]
        exact hhead.append ((hsub _ (List.mem_map_of_mem hl)).cons_cons x)
    · have hpart : ∀ l ∈ lists, headAt x l ⊆ l ∧ tailAt x l ⊆ l := fun l _ =>
        ⟨(List.takeWhile_sublist _).subset,
          ((List.tail_sublist _).trans (List.dropWhile_sublist _)).subset⟩
      rcases List.mem_append.mp hy with hhead | htail
      · obtain ⟨head, hmap, hyhead⟩ := List.mem_flatten.mp hhead
        obtain ⟨l, hl, rfl⟩ := List.mem_map.mp hmap
        exact .inr ⟨l, hl, (hpart l hl).1 hyhead⟩
      · rcases List.mem_cons.mp htail with rfl | hshared
        · exact .inl rfl
        · refine (hmem y hshared).imp_right ?_
          rintro ⟨tail, hmap, hytail⟩
          obtain ⟨l, hl, rfl⟩ := List.mem_map.mp hmap
          exact ⟨l, hl, (hpart l hl).2 hytail⟩

end Shared

end TestMigration.Text
