import TestMigration.Files.Tree
import TestMigration.Proofs.Tables
import Mathlib.Data.List.Infix
/-!
# What the operations do to a file tree

A tree is known by what it has at each location, so each operation is described by what is there
afterwards. For the one that makes folders there is one rule for both of its endings
(`get?_makeFolders`): on the way to a location, what is open has a folder in the end. A location is
open if at each place on the way there is a folder, or one can be made. In a tree that comes from a
file system, whatever is there is in a folder (`Sound`).
-/

namespace TestMigration

theorem Table.get?_filter {κ α : Type} [DecidableEq κ] (p : κ → Bool) (key : κ) (t : Table κ α) :
    Table.get? key (t.filter fun e => p e.1) = if p key then Table.get? key t else none := by
  induction t with
  | nil => simp
  | cons entry _ ih =>
    obtain ⟨k, a⟩ := entry
    by_cases hp : p k = true
    · rw [List.filter_cons_of_pos (by simpa using hp)]
      by_cases hk : k = key
      · subst hk
        simp [Table.get?, hp]
      · simp [Table.get?, hk, ih]
    · rw [List.filter_cons_of_neg (by simpa using hp), ih]
      by_cases hk : k = key
      · subst hk
        simp [hp]
      · simp [Table.get?, hk]

namespace Files.FileTree

variable {t : FileTree} {location l : List String}

@[simp] theorem get?_nil (t : FileTree) : t.get? [] = some .folder := rfl

variable {source target done rest : List String} {name : String} {t' : FileTree}

theorem get?_of_ne_nil (h : l ≠ []) : t.get? l = Table.get? l t.entries := by
  cases l with
  | nil => exact absurd rfl h
  | cons => rfl

theorem isFolder_iff : t.isFolder l = true ↔ t.get? l = some .folder := by simp [isFolder]

theorem get?_put (h : location ≠ []) (e : Entry) :
    (t.put location e).get? l = if location = l then some e else t.get? l := by
  by_cases hl : l = []
  · subst hl
    rw [if_neg h]
    rfl
  · rw [get?_of_ne_nil hl, get?_of_ne_nil hl, put, Table.get?_put]

theorem get?_remove (h : location ≠ []) :
    (t.remove location).get? l = if location <+: l then none else t.get? l := by
  by_cases hl : l = []
  · subst hl
    rw [if_neg (by simpa using h)]
    rfl
  · have hkey := Table.get?_filter (fun place => !location.isPrefixOf place) l t.entries
    rw [get?_of_ne_nil hl, get?_of_ne_nil hl, remove, hkey]
    by_cases hbefore : location <+: l
    · rw [if_pos hbefore, if_neg (by simpa using hbefore)]
    · rw [if_neg hbefore, if_pos]
      rw [Bool.not_eq_true', Bool.eq_false_iff, Ne, List.isPrefixOf_iff_prefix]
      exact hbefore

/-- Where moved entries are found. -/
theorem get?_map_moved {l : List String} {entries : Table (List String) Entry}
    (hnone : ∀ way, Table.get? (target ++ way) entries = none) :
    Table.get? l (entries.map fun (place, e) =>
      (if source.isPrefixOf place then target ++ place.drop source.length else place, e)) =
      if target <+: l then Table.get? (source ++ l.drop target.length) entries
      else if source <+: l then none else Table.get? l entries := by
  induction entries with
  | nil => simp
  | cons entry _ ih =>
    obtain ⟨place, e⟩ := entry
    have hplace : ∀ way, place ≠ target ++ way := by
      rintro way rfl
      simpa [Table.get?] using hnone way
    have hrest := ih fun way => by simpa [Table.get?, hplace way] using hnone way
    rw [List.map_cons, Table.get?, hrest]
    by_cases hl : target <+: l
    · obtain ⟨way, rfl⟩ := hl
      by_cases hplace' : source <+: place
      · obtain ⟨rest', rfl⟩ := hplace'
        by_cases hway : rest' = way <;> simp [Table.get?, hway]
      · have hne : place ≠ source ++ way := by
          rintro rfl
          exact hplace' (List.prefix_append _ _)
        simp [Table.get?, hplace', hplace way, hne]
    · by_cases hplace' : source <+: place
      · have hmoved : ¬target ++ place.drop source.length = l := by
          rintro rfl
          exact hl (List.prefix_append _ _)
        by_cases hsource : source <+: l
        · simp [hl, hplace', hsource, hmoved]
        · have hne : place ≠ l := by
            rintro rfl
            exact hsource hplace'
          simp [Table.get?, hl, hplace', hsource, hmoved, hne]
      · by_cases hne : place = l
        · subst hne
          simp [Table.get?, hl, hplace']
        · simp [Table.get?, hl, hplace', hne]

/-- A moved folder is gone with all below it, and found where it was moved to. -/
theorem get?_moveFolder (hs : source ≠ []) (ht : target ≠ [])
    (hfree : ∀ way, t.get? (target ++ way) = none) : (t.moveFolder source target).get? l =
      if target <+: l then t.get? (source ++ l.drop target.length)
      else if source <+: l then none else t.get? l := by
  have hnone : ∀ way, Table.get? (target ++ way) t.entries = none := by
    intro way
    rw [← get?_of_ne_nil (by simp [ht])]
    exact hfree way
  by_cases hl : l = []
  · subst hl
    rw [if_neg (by simpa using ht), if_neg (by simpa using hs)]
    rfl
  · rw [get?_of_ne_nil hl, get?_of_ne_nil hl, moveFolder, get?_map_moved hnone]
    refine if_congr Iff.rfl ?_ rfl
    rw [get?_of_ne_nil (by simp [hs])]

/-! ### Sound trees -/

/-- Whatever is in a tree is in a folder. -/
def Sound (t : FileTree) : Prop :=
  ∀ l, (t.get? l).isSome = true → t.get? l.dropLast = some .folder

theorem sound_of_keys (h : ∀ l ∈ t.entries.keys, t.get? l.dropLast = some .folder) : t.Sound := by
  intro l hl
  cases l with
  | nil => rfl
  | cons =>
    obtain ⟨e, he⟩ := Option.isSome_iff_exists.mp hl
    exact h _ (Table.mem_keys_of_get? he)

theorem Sound.folder_before (h : t.Sound) (hl : (t.get? l).isSome = true) {place : List String}
    (hplace : place <+: l) (hne : place ≠ l) : t.get? place = some .folder := by
  obtain ⟨way, rfl⟩ := hplace
  induction way using List.reverseRecOn with
  | nil => simp at hne
  | append_singleton way _ ih =>
    have hparent := h _ hl
    rw [← List.append_assoc, List.dropLast_concat] at hparent
    by_cases hway : way = []
    · rwa [hway, List.append_nil] at hparent
    · exact ih (by rw [hparent]; rfl) (by simpa using hway)

theorem Sound.none_below (h : t.Sound) (hl : t.get? l = none) (way : List String) :
    t.get? (l ++ way) = none := by
  cases hway : t.get? (l ++ way) with
  | none => rfl
  | some e =>
    by_cases hnil : way = []
    · rw [hnil, List.append_nil, hl] at hway
      cases hway
    · have hfolder :=
        h.folder_before (by rw [hway]; rfl) (List.prefix_append l way) (by simpa using hnil)
      rw [hl] at hfolder
      cases hfolder

/-! ### Making folders -/

/-- There is a folder at a location, or one can be made. -/
def Passable (t : FileTree) (l : List String) : Prop :=
  t.get? l = some .folder ∨ t.get? l = none ∧ locationProblem? l = none

/-- Each place on the way to a location, and the location, is a folder or can be made one. -/
def Open (t : FileTree) (l : List String) : Prop := ∀ place, place <+: l → t.Passable place

theorem Open.mono (h : t.Open location) (hl : l <+: location) : t.Open l :=
  fun place hplace => h place (hplace.trans hl)

/-- A way that goes on from where it is ends there, or takes the next step. -/
theorem eq_or_prefix_of_between (h : done <+: l)
    (h' : l <+: done ++ name :: rest) : l = done ∨ done ++ [name] <+: l := by
  obtain ⟨way, rfl⟩ := h
  cases way with
  | nil => exact .inl (by simp)
  | cons _ more =>
    right
    rw [List.prefix_append_right_inj, List.cons_prefix_cons] at h'
    obtain ⟨rfl, -⟩ := h'
    exact ⟨more, by simp⟩

/-- Each place from a folder on to a location is a folder or can be made one. -/
def OpenFrom (t : FileTree) (done l : List String) : Prop :=
  done <+: l ∧ ∀ place, done <+: place → place <+: l → t.Passable place

theorem openFrom_nil : t.OpenFrom [] l ↔ t.Open l := by simp [OpenFrom, Open]

theorem openFrom_self (h : t.get? done = some .folder) : t.OpenFrom done done := by
  refine ⟨List.prefix_refl _, fun place hle hge => ?_⟩
  rw [← hle.eq_of_length_le hge.length_le]
  exact .inl h

/-- Where a step is possible, what is behind it can be come to before it and after it. -/
theorem openFrom_step (hdone : t.get? done = some .folder) (hhere : t.Passable (done ++ [name]))
    (hhere' : t'.Passable (done ++ [name]))
    (hsame : ∀ place, place ≠ done ++ [name] → t'.get? place = t.get? place)
    (hl : l <+: done ++ name :: rest) (hne : l ≠ done) :
    t.OpenFrom done l ↔ t'.OpenFrom (done ++ [name]) l := by
  have hpassable : ∀ place, t.Passable place ↔ t'.Passable place := by
    intro place
    by_cases hplace : place = done ++ [name]
    · subst hplace
      exact iff_of_true hhere hhere'
    · rw [Passable, Passable, hsame place hplace]
  constructor
  · rintro ⟨hbelow, hall⟩
    refine ⟨(eq_or_prefix_of_between hbelow hl).resolve_left hne, fun place hplace hle => ?_⟩
    exact (hpassable place).mp (hall place ((List.prefix_append _ _).trans hplace) hle)
  · rintro ⟨hbelow, hall⟩
    refine ⟨(List.prefix_append _ _).trans hbelow, fun place hplace hle => ?_⟩
    rcases eq_or_prefix_of_between hplace (hle.trans hl) with rfl | hplace
    · exact .inl hdone
    · exact (hpassable place).mpr (hall place hplace hle)

theorem not_openFrom_of_blocked
    (hhere : ¬t.Passable (done ++ [name])) (hl : l <+: done ++ name :: rest) (hne : l ≠ done) :
    ¬t.OpenFrom done l := by
  rintro ⟨hbelow, hall⟩
  have hle := (eq_or_prefix_of_between hbelow hl).resolve_left hne
  exact hhere (hall _ (List.prefix_append _ _) hle)

/-- What making folders comes to: whether it succeeds, and what is there afterwards. -/
structure Makes (t : FileTree) (done rest : List String) (r : Except FileFailure Unit × FileTree) :
    Prop where
  ok : r.1 = .ok () ↔ t.OpenFrom done (done ++ rest)
  made {l : List String} : l <+: done ++ rest → t.OpenFrom done l → r.2.get? l = some .folder
  kept {l : List String} : ¬(l <+: done ++ rest ∧ t.OpenFrom done l) → r.2.get? l = t.get? l

theorem makes_makeFolders (hdone : t.get? done = some .folder)
    (rest : List String) : t.Makes done rest (t.makeFolders done rest) := by
  induction rest generalizing t done with
  | nil =>
    rw [makeFolders]
    refine ⟨by simpa using openFrom_self hdone, fun {l} hl hopen => ?_, fun _ => rfl⟩
    rw [List.append_nil] at hl
    rwa [hl.eq_of_length_le hopen.1.length_le]
  | cons name rest ih =>
    have hlong : done ++ name :: rest ≠ done := by simp
    have happend : done ++ name :: rest = done ++ [name] ++ rest := by simp
    -- Both ways to go on lead to a tree in which there is a folder at the next place.
    have hgo : ∀ t' : FileTree, t'.get? (done ++ [name]) = some .folder →
      t.Passable (done ++ [name]) →
        (∀ place, place ≠ done ++ [name] → t'.get? place = t.get? place) →
        t.Makes done (name :: rest) (t'.makeFolders (done ++ [name]) rest) := by
      intro t' hhere hpassable hsame
      have hmakes := ih hhere
      have hstep : ∀ {l}, l <+: done ++ name :: rest → l ≠ done →
          (t.OpenFrom done l ↔ t'.OpenFrom (done ++ [name]) l) :=
        openFrom_step hdone hpassable (.inl hhere) hsame
      refine ⟨?_, fun {l} hl hopen => ?_, fun {l} hnot => ?_⟩
      · rw [hmakes.ok, ← happend]
        exact (hstep (List.prefix_refl _) hlong).symm
      · by_cases hne : l = done
        · subst hne
          have hless : ¬t'.OpenFrom (l ++ [name]) l := fun h => by
            have := h.1.length_le
            rw [List.length_append, List.length_singleton] at this
            omega
          rw [hmakes.kept fun h => hless h.2, hsame l (by simp)]
          exact hdone
        · exact hmakes.made (happend ▸ hl) ((hstep hl hne).mp hopen)
      · have hne : l ≠ done := by
          rintro rfl
          exact hnot ⟨List.prefix_append _ _, openFrom_self hdone⟩
        have hkept : t'.makeFolders (done ++ [name]) rest |>.2.get? l = t'.get? l :=
          hmakes.kept fun ⟨hl, hopen⟩ =>
            hnot ⟨happend ▸ hl, (hstep (happend ▸ hl) hne).mpr hopen⟩
        have hhere' : l ≠ done ++ [name] := by
          rintro rfl
          exact hnot ⟨happend ▸ List.prefix_append _ _,
            (hstep (happend ▸ List.prefix_append _ _) (by simp)).mpr (openFrom_self hhere)⟩
        rw [hkept, hsame l hhere']
    have hstop : ∀ f : FileFailure, ¬t.Passable (done ++ [name]) →
        t.Makes done (name :: rest) (.error f, t) := by
      intro f hblocked
      have hnot : ∀ {l}, l <+: done ++ name :: rest → l ≠ done → ¬t.OpenFrom done l :=
        not_openFrom_of_blocked hblocked
      refine ⟨?_, fun {l} hl hopen => ?_, fun _ => rfl⟩
      · exact iff_of_false (by simp) (hnot (List.prefix_refl _) hlong)
      · by_cases hne : l = done
        · rwa [hne]
        · exact absurd hopen (hnot hl hne)
    unfold makeFolders
    dsimp only
    split
    · rename_i hhere
      exact hgo t hhere (.inl hhere) fun _ _ => rfl
    · rename_i hhere
      split
      · rename_i problem hproblem
        exact hstop _ (by simp [Passable, hhere, hproblem])
      · rename_i hproblem
        refine hgo _ ?_ (.inr ⟨hhere, hproblem⟩) fun place hplace => ?_
        · rw [get?_put (by simp), if_pos rfl]
        · rw [get?_put (by simp), if_neg (Ne.symm hplace)]
    · rename_i bytes hhere
      split <;> exact hstop _ (by simp [Passable, hhere])

theorem makeFolders_ok_iff : (t.makeFolders [] location).1 = .ok () ↔ t.Open location := by
  rw [(makes_makeFolders (get?_nil t) location).ok, openFrom_nil, List.nil_append]

theorem get?_makeFolders_of_open (hl : l <+: location) (hopen : t.Open l) :
    (t.makeFolders [] location).2.get? l = some .folder :=
  (makes_makeFolders (get?_nil t) location).made hl (openFrom_nil.mpr hopen)

theorem get?_makeFolders_of_not (h : ¬(l <+: location ∧ t.Open l)) :
    (t.makeFolders [] location).2.get? l = t.get? l :=
  (makes_makeFolders (get?_nil t) location).kept fun ⟨hl, hopen⟩ => h ⟨hl, openFrom_nil.mp hopen⟩

theorem get?_makeFolders_of_folder (h : t.get? l = some .folder) :
    (t.makeFolders [] location).2.get? l = some .folder := by
  by_cases hway : l <+: location ∧ t.Open l
  · exact get?_makeFolders_of_open hway.1 hway.2
  · rwa [get?_makeFolders_of_not hway]

/-! ### Writing files -/

theorem write_eq_ok_iff {bytes : List UInt8} :
    t.write l bytes = .ok t' ↔ t.get? l ≠ some .folder ∧ t.get? l.dropLast = some .folder ∧
      locationProblem? l = none ∧ t' = t.put l (.file bytes) := by
  rw [write]
  by_cases hfolder : t.isFolder l = true
  · rw [if_pos hfolder]
    exact iff_of_false (by simp) fun h => h.1 (isFolder_iff.mp hfolder)
  · rw [if_neg hfolder]
    rw [isFolder_iff] at hfolder
    by_cases hparent : t.isFolder l.dropLast = true
    · rw [if_pos hparent]
      rw [isFolder_iff] at hparent
      cases hproblem : locationProblem? l with
      | some => simp
      | none => simp [hfolder, hparent, eq_comm]
    · rw [if_neg hparent]
      exact iff_of_false (by simp) fun h => hparent (isFolder_iff.mpr h.2.1)

end Files.FileTree

end TestMigration
