import Mathlib.Data.List.DropRight
import TestMigration.Proofs.Tables
import TestMigration.Proofs.Text.Paths
import TestMigration.Profile.Builtin
import TestMigration.Rendering.Run
/-!
# Package markers

Every directory that the path of a unit leads through gets a marker. They are found by climbing from
the path to its directory, again and again, until nothing is left. From a relative path such a climb
passes exactly the directories above it; from an absolute one it ends at the root and stays there.
-/

namespace TestMigration.Rendering

open Text Path Profile

/-- A path leads through a directory: a slash follows it, and none is at its end. -/
def Above (dir path : List Char) : Prop := dir.getLast? ≠ some '/' ∧ dir ++ ['/'] <+: path

variable {path : String} {dir cs : List Char} {c : Char} {found : List String}

theorem above_concat :
    Above dir (cs ++ [c]) ↔ (dir.getLast? ≠ some '/' ∧ dir = cs ∧ c = '/') ∨ Above dir cs := by
  have hsame : dir ++ ['/'] = cs ++ [c] ↔ dir = cs ∧ c = '/' := by
    simp [eq_comm]
  rw [Above, List.prefix_concat_iff, and_or_left, hsame, Above]

theorem above_trimmed (hne : cs.rdropWhile (· == '/') ≠ []) :
    Above dir (cs ++ ['/']) ↔
      dir = cs.rdropWhile (· == '/') ∨ Above dir (cs.rdropWhile (· == '/')) := by
  induction cs using List.reverseRecOn with
  | nil => exact absurd rfl hne
  | append_singleton cs c ih =>
    rw [above_concat]
    by_cases hc : c = '/'
    · subst hc
      rw [List.rdropWhile_concat_pos _ _ _ (by simp)] at hne ⊢
      refine (or_iff_right ?_).trans (ih hne)
      rintro ⟨hlast, rfl, -⟩
      simp at hlast
    · rw [List.rdropWhile_concat_neg _ _ _ (by simpa using hc)]
      refine or_congr_left ⟨fun h => h.2.1, ?_⟩
      rintro rfl
      simpa using hc

/-- A relative path leads through its directory and what is above that. -/
theorem above_iff (hrelative : isAbsolute path = false) : Above dir path.toList ↔
    directory path ≠ "" ∧ (dir = (directory path).toList ∨ Above dir (directory path).toList) := by
  obtain ⟨cs, rfl⟩ : ∃ cs, path = .ofList cs := ⟨path.toList, by simp⟩
  rw [← Bool.not_eq_true, isAbsolute_iff, String.toList_ofList] at hrelative
  rw [String.toList_ofList]
  induction cs using List.reverseRecOn with
  | nil => simp [directory, Above]
  | append_singleton cs c ih =>
    by_cases hc : c = '/'
    · subst hc
      have hne : cs.rdropWhile (· == '/') ≠ [] := by
        intro hnil
        rw [List.rdropWhile_eq_nil_iff] at hnil
        cases cs <;> simp_all
      have hdirectory : directory (.ofList (cs ++ ['/'])) = .ofList (cs.rdropWhile (· == '/')) := by
        have : ¬∀ c ∈ cs, c = '/' := by simpa [List.rdropWhile_eq_nil_iff] using hne
        simp [directory, trimRightChars, this, List.rdropWhile]
      rw [above_trimmed hne, hdirectory]
      simp [hne]
    · have hdirectory : directory (.ofList (cs ++ [c])) = directory (.ofList cs) := by
        simp [directory, hc]
      rw [above_concat, hdirectory, ← ih fun h => hrelative (h.trans (List.prefix_append _ _))]
      simp [hc]

/-- The root is not left. -/
theorem isAbsolute_directory (h : isAbsolute path = true) : isAbsolute (directory path) = true := by
  obtain ⟨rest, hrest⟩ := isAbsolute_iff.mp h
  have hhead : path.toList.reverse.dropWhile (· != '/') =
      rest.reverse.dropWhile (· != '/') ++ ['/'] := by
    simp +contextual [← hrest, List.dropWhile_append]
  simp only [isAbsolute_iff, directory, hhead, trimRightChars, List.reverse_reverse,
    List.dropWhile_append]
  split_ifs <;> simp_all
  grind

/-- A climb from a relative path ends, and has found the directories above it. -/
theorem exists_climb (found : List String) (hrelative : isAbsolute path = false) :
    ∃ found', climb found path = some found' ∧ (found.Nodup → found'.Nodup) ∧
      ∀ d : String, d ∈ found' ↔ d ∈ found ∨ Above d.toList path.toList := by
  induction hlength : path.toList.length using Nat.strong_induction_on generalizing path found with
  | h n ih =>
    rw [climb]
    by_cases hempty : directory path = ""
    · rw [hempty]
      exact ⟨found, rfl, id, fun d => by simp [above_iff hrelative, hempty]⟩
    · have habove := ((above_iff hrelative).mpr ⟨hempty, .inl rfl⟩).2
      have hup : isAbsolute (directory path) = false := by
        rw [← Bool.not_eq_true, isAbsolute_iff] at hrelative ⊢
        exact fun h => hrelative ((h.trans (List.prefix_append _ _)).trans habove)
      have hless : (directory path).toList.length < n := by
        simpa [hlength, Nat.add_one_le_iff] using habove.length_le
      obtain ⟨found', hclimb, hnodup, hmem⟩ := ih _ hless (found.insert (directory path)) hup rfl
      refine ⟨found', by simpa [hempty, ← String.length_toList, hless, hlength] using hclimb,
        fun h => hnodup h.insert, fun d => ?_⟩
      rw [hmem, above_iff hrelative, List.mem_insert_iff, String.toList_inj, or_assoc, or_left_comm]
      simp [hempty]

theorem climb_of_isAbsolute (h : isAbsolute path = true) : climb found path = none := by
  fun_induction climb found path with
  | case1 _ path _ hempty =>
    have hup := isAbsolute_directory h
    rw [show directory path = "" from String.isEmpty_iff.mp hempty] at hup
    exact absurd hup (by decide)
  | case2 _ _ _ _ _ ih => exact ih (isAbsolute_directory h)
  | case3 => rfl

theorem climbAll_eq_or (units : List OutputUnit) (found : List String) :
    ((∃ u ∈ units, isAbsolute u.path = true) ∧ climbAll found units = none) ∨
      (∀ u ∈ units, isAbsolute u.path = false) ∧ ∃ found', climbAll found units = some found' ∧
        (found.Nodup → found'.Nodup) ∧
        ∀ d : String, d ∈ found' ↔ d ∈ found ∨ ∃ u ∈ units, Above d.toList u.path.toList := by
  induction units generalizing found with
  | nil => exact .inr ⟨nofun, found, rfl, id, by simp⟩
  | cons u _ ih =>
    rw [climbAll, List.foldlM_cons]
    cases habsolute : isAbsolute u.path with
    | true => exact .inl ⟨⟨u, by simp, habsolute⟩, by rw [climb_of_isAbsolute habsolute]; rfl⟩
    | false =>
      obtain ⟨found', hclimb, hnodup, hmem⟩ := exists_climb found habsolute
      rw [hclimb]
      rcases ih found' with ⟨⟨v, hv, hroot⟩, hnone⟩ | ⟨hall, found'', hsome, hnodup', hmem'⟩
      · exact .inl ⟨⟨v, List.mem_cons_of_mem _ hv, hroot⟩, hnone⟩
      · refine .inr ⟨by simpa [habsolute] using hall, found'', hsome, hnodup' ∘ hnodup, fun d => ?_⟩
        simp [hmem', hmem, or_assoc]

/-- **Every directory above a unit gets one marker**, in order, and nothing else does. That is so
for relative paths; for an absolute one the search for directories does not end. -/
theorem packages_marked (m : Model) {p : Profile} {marker : String}
    (hmarker : p.packageMarker = some marker) (hne : marker ≠ "") (units : List OutputUnit) :
    (supportUnits m p units = none ↔ ∃ u ∈ units, isAbsolute u.path = true) ∧
      ((∃ u ∈ units, isAbsolute u.path = true) ∨
        ∃ directories : List String, supportUnits m p units =
          some (profileFiles m p ++ directories.map fun d => supportUnit (append d marker) "") ∧
        directories.Nodup ∧ directories.Pairwise (· ≤ ·) ∧
        ∀ d, d ∈ directories ↔ ∃ u ∈ units, Above d.toList u.path.toList) := by
  have hsupport : supportUnits m p units = (climbAll [] units).map fun directories =>
      profileFiles m p ++ (sortTexts directories).map fun d =>
        supportUnit (append d marker) "" := by
    simp [supportUnits, hmarker, hne]
  rw [hsupport]
  rcases climbAll_eq_or units [] with ⟨habsolute, hnone⟩ | ⟨hrelative, found, hsome, hnodup, hmem⟩
  · rw [hnone]
    exact ⟨iff_of_true rfl habsolute, .inl habsolute⟩
  · rw [hsome]
    have hperm : (sortTexts found).Perm found := sortBy_perm _ _
    refine ⟨iff_of_false nofun (by simpa using hrelative), .inr ⟨_, rfl, ?_, ?_, fun d => ?_⟩⟩
    · exact hperm.nodup_iff.mpr (hnodup .nil)
    · exact pairwise_sortBy_key id found
    · simp [hperm.mem_iff, hmem]

/-- A package and one inside of it have a marker each, whatever the number of their units. -/
theorem packages_marked_nested :
    supportUnits { units := [] } playwrightPython
        [supportUnit "a/b/c.py" "", supportUnit "a/d.py" ""] =
      some (profileFiles { units := [] } playwrightPython ++
        [supportUnit "a/__init__.py" "", supportUnit "a/b/__init__.py" ""]) := by
  have hmarker : playwrightPython.packageMarker = some "__init__.py" := rfl
  have hmarked := (packages_marked { units := [] } hmarker (by decide)
    [supportUnit "a/b/c.py" "", supportUnit "a/d.py" ""]).2
  obtain ⟨directories, hsupport, hnodup, hsorted, hmem⟩ := hmarked.resolve_left (by decide)
  have hperm : directories.Perm ["a", "a/b"] := by
    refine (List.perm_ext_iff_of_nodup hnodup (by decide)).mpr fun d => ?_
    have hstep (path up : String) (hrelative : isAbsolute path = false)
      (hup : directory path = up) :
        Above d.toList path.toList ↔ up ≠ "" ∧ (d = up ∨ Above d.toList up.toList) := by
      rw [above_iff hrelative, hup, String.toList_inj]
    rw [hmem]
    simp only [supportUnit, List.exists_mem_cons_iff, hstep "a/b/c.py" "a/b" rfl (by decide),
      hstep "a/d.py" "a" rfl (by decide), hstep "a/b" "a" rfl (by decide),
      hstep "a" "" rfl (by decide)]
    simp [or_comm]
  rw [hsupport, hperm.eq_of_pairwise (fun _ _ _ _ => String.le_antisymm) hsorted (by decide)]
  rfl

/-- The search for packages above an absolute path does not end. -/
theorem supportUnits_endless :
    supportUnits { units := [] } playwrightPython [supportUnit "/a/b.py" ""] = none := by
  change Option.map _ (climb [] "/a/b.py" >>= _) = none
  rw [climb_of_isAbsolute (by decide)]
  rfl

end TestMigration.Rendering
