import TestMigration.Files.Output
import TestMigration.Proofs.Files.Trees
/-!
# Files put below a folder

Staging files and moving them to the output directory take the same steps for each file: the folders
on the way are made, and then there is the file. So both loops are described by one function on what
a tree has at its locations (`placeAll`), and by one condition on a single file, that it fits where
it is to go (`Fits`).

If neither of two ways goes on from the end of the other (`Apart`), one file fits after the other
has been put exactly if it fits before (`Fits.step`). So for files whose ways are apart, whether
they fit can be asked of the tree at the start, and a loop stops at the first one that does not.
-/

namespace TestMigration.Files

open Text

/-- What there is at a location, for each location. -/
abbrev View := List String → Option Entry

/-- A file is put below a folder, with the folders on the way. -/
def place (base : List String) (v : View) (file : List String × String) : View := fun l =>
  if l = base ++ file.1 then some (.file (encode file.2))
  else if l <+: base ++ file.1.dropLast then some .folder
  else v l

def placeAll (base : List String) (v : View) (files : List (List String × String)) : View :=
  files.foldl (place base) v

/-- Neither of two ways goes on from the end of the other. -/
def Apart (f g : List String × String) : Prop := ¬f.1 <+: g.1 ∧ ¬g.1 <+: f.1

/-- A file can be put below a folder. -/
structure FileTree.Fits (t : FileTree) (base way : List String) : Prop where
  opens : t.Open (base ++ way.dropLast)
  free : t.get? (base ++ way) ≠ some .folder
  fine : locationProblem? (base ++ way) = none

section Place

variable {base l : List String} {v v' : View} {file : List String × String}
  {files : List (List String × String)}

theorem place_self : place base v file (base ++ file.1) = some (.file (encode file.2)) := if_pos rfl

theorem prefix_dropLast_of_ne {p q : List String} (h : p <+: q) (hne : p ≠ q) :
    p <+: q.dropLast := by
  rcases List.eq_nil_or_concat q with rfl | ⟨_, _, rfl⟩
  · exact absurd (List.prefix_nil.mp h) hne
  · rw [List.concat_eq_append] at h hne ⊢
    rw [List.dropLast_concat]
    exact (List.prefix_concat_iff.mp h).resolve_left hne

theorem not_prefix_dropLast {p : List String} (h : p ≠ []) : ¬p <+: p.dropLast := by
  intro hp
  have hlength := hp.length_le
  rw [List.length_dropLast] at hlength
  have := List.length_pos_of_ne_nil h
  omega

theorem prefix_of_prefix_dropLast {p way : List String} (h : p <+: base ++ way.dropLast) :
    p <+: base ++ way :=
  h.trans <| (List.prefix_append_right_inj base).mpr <| List.dropLast_prefix _

theorem place_onWay (hway : file.1 ≠ []) (hl : l <+: base ++ file.1.dropLast) :
    place base v file l = some .folder := by
  have hne : l ≠ base ++ file.1 := by
    rintro rfl
    exact not_prefix_dropLast hway ((List.prefix_append_right_inj base).mp hl)
  rw [place, if_neg hne, if_pos hl]

theorem place_elsewhere (hl : ¬l <+: base ++ file.1) : place base v file l = v l := by
  rw [place, if_neg (by rintro rfl; exact hl (List.prefix_refl _)), if_neg]
  intro hbefore
  exact hl (prefix_of_prefix_dropLast hbefore)

theorem placeAll_congr (h : v l = v' l) : placeAll base v files l = placeAll base v' files l := by
  induction files generalizing v v' with
  | nil => exact h
  | cons _ _ ih =>
    refine ih ?_
    simp only [place, h]

theorem placeAll_elsewhere (h : ∀ f ∈ files, ¬l <+: base ++ f.1) :
    placeAll base v files l = v l := by
  induction files generalizing v with
  | nil => rfl
  | cons file _ ih =>
    refine (ih fun f hf => h f (List.mem_cons_of_mem _ hf)).trans ?_
    exact place_elsewhere (h file List.mem_cons_self)

/-- What is not below the folder stays, if there are folders on the way to it. -/
theorem place_of_off (h : l <+: base → v l = some .folder) (hl : ¬base <+: l) :
    place base v file l = v l := by
  rw [place, if_neg (by rintro rfl; exact hl (List.prefix_append _ _))]
  by_cases hway : l <+: base ++ file.1.dropLast
  · have hbefore := (List.prefix_or_prefix_of_prefix hway (List.prefix_append _ _)).resolve_right hl
    rw [if_pos hway, h hbefore]
  · rw [if_neg hway]

theorem placeAll_of_off (h : l <+: base → v l = some .folder) (hl : ¬base <+: l) :
    placeAll base v files l = v l := by
  induction files generalizing v with
  | nil => rfl
  | cons file _ ih =>
    have hsame : place base v file l = v l := place_of_off h hl
    exact (ih fun hbefore => hsame.trans (h hbefore)).trans hsame

theorem placeAll_rebase {other way : List String} (h : v (base ++ way) = v' (other ++ way)) :
    placeAll base v files (base ++ way) = placeAll other v' files (other ++ way) := by
  induction files generalizing v v' with
  | nil => exact h
  | cons _ _ ih =>
    refine ih ?_
    simp only [place, List.append_cancel_left_eq, List.prefix_append_right_inj, h]

theorem placeAll_of_mem (hapart : files.Pairwise Apart) (hfile : file ∈ files) :
    placeAll base v files (base ++ file.1) = some (.file (encode file.2)) := by
  induction files generalizing v with
  | nil => cases hfile
  | cons f rest ih =>
    obtain ⟨hf, hrest⟩ := List.pairwise_cons.mp hapart
    rcases List.mem_cons.mp hfile with rfl | hfile
    · have hstays : ∀ g ∈ rest, ¬base ++ file.1 <+: base ++ g.1 := by
        intro g hg
        rw [List.prefix_append_right_inj]
        exact (hf g hg).1
      exact (placeAll_elsewhere hstays).trans place_self
    · exact ih hrest hfile

end Place

/-! ### One file -/

section One

variable {t t₁ t' : FileTree} {base way l : List String}

theorem FileTree.fits_iff (hway : way ≠ [] ∨ t.get? base = some .folder) (bytes : List UInt8) :
    t.Fits base way ↔ (t.makeFolders [] (base ++ way.dropLast)).1 = .ok () ∧
      ∃ t', (t.makeFolders [] (base ++ way.dropLast)).2.write (base ++ way) bytes = .ok t' := by
  by_cases hnil : way = []
  · -- The folder itself is no place for a file.
    subst hnil
    have hbase := hway.resolve_left (by simp)
    refine iff_of_false (fun h => h.free (by rwa [List.append_nil])) ?_
    rintro ⟨-, t', hwrite⟩
    refine (write_eq_ok_iff.mp hwrite).1 ?_
    rw [List.append_nil]
    exact get?_makeFolders_of_folder hbase
  · have hsame : (t.makeFolders [] (base ++ way.dropLast)).2.get? (base ++ way) =
        t.get? (base ++ way) := by
      refine get?_makeFolders_of_not fun h => not_prefix_dropLast hnil ?_
      exact (List.prefix_append_right_inj base).mp h.1
    simp only [write_eq_ok_iff, hsame, makeFolders_ok_iff, exists_and_left, exists_eq, and_true,
      List.dropLast_append_of_ne_nil hnil]
    constructor
    · intro h
      exact ⟨h.opens, h.free, get?_makeFolders_of_open (List.prefix_refl _) h.opens, h.fine⟩
    · rintro ⟨hopens, hfree, -, hfine⟩
      exact ⟨hopens, hfree, hfine⟩

/-- What is there once a file has been written, with its folders. -/
theorem FileTree.get?_of_write (hway : way ≠ []) {text : String}
    (hopen : t.Open (base ++ way.dropLast))
    (hwrite : (t.makeFolders [] (base ++ way.dropLast)).2.write (base ++ way)
      (encode text) = .ok t') :
    t'.get? l = place base t.get? (way, text) l := by
  obtain ⟨-, -, -, rfl⟩ := write_eq_ok_iff.mp hwrite
  rw [get?_put (by simp [hway]), place]
  by_cases hl : l = base ++ way
  · rw [if_pos hl.symm, if_pos hl]
  · rw [if_neg (Ne.symm hl), if_neg hl]
    by_cases hbefore : l <+: base ++ way.dropLast
    · rw [if_pos hbefore, get?_makeFolders_of_open hbefore (hopen.mono hbefore)]
    · rw [if_neg hbefore, get?_makeFolders_of_not fun h => hbefore h.1]

end One

/-! ### One file after another -/

section Step

variable {t t₁ : FileTree} {way : List String} {base l : List String} {f g : List String × String}

theorem FileTree.open_congr (h : ∀ p, p <+: l → t₁.get? p = t.get? p) : t₁.Open l ↔ t.Open l := by
  refine forall₂_congr fun p hp => ?_
  rw [Passable, Passable, h p hp]

theorem FileTree.fits_iff_of_same
    (hopen : t₁.Open (base ++ way.dropLast) ↔ t.Open (base ++ way.dropLast))
    (hsame : t₁.get? (base ++ way) = t.get? (base ++ way)) :
    t₁.Fits base way ↔ t.Fits base way := by
  constructor
  · rintro ⟨hopens, hfree, hfine⟩
    exact ⟨hopen.mp hopens, hsame ▸ hfree, hfine⟩
  · rintro ⟨hopens, hfree, hfine⟩
    exact ⟨hopen.mpr hopens, hsame ▸ hfree, hfine⟩

/-- Whether a file fits depends on its way and where it is to go. -/
theorem FileTree.fits_congr (h : ∀ p, p <+: base ++ way → t₁.get? p = t.get? p) :
    t₁.Fits base way ↔ t.Fits base way := by
  have hopen : t₁.Open (base ++ way.dropLast) ↔ t.Open (base ++ way.dropLast) :=
    open_congr fun p hp => h p (prefix_of_prefix_dropLast hp)
  exact fits_iff_of_same hopen (h _ (List.prefix_refl _))

/-- What can be come to on the way to one file can be come to after another one has been put. -/
theorem FileTree.Fits.open_step (hf : t.Fits base f.1) (hapart : Apart f g)
    (hview : ∀ l, l <+: base ++ g.1 → t₁.get? l = place base t.get? f l)
    (hl : l <+: base ++ g.1.dropLast) : t₁.Open l ↔ t.Open l := by
  have hpassable : ∀ p, p <+: base ++ g.1.dropLast → (t₁.Passable p ↔ t.Passable p) := by
    intro p hp
    have hway := prefix_of_prefix_dropLast hp
    rw [Passable, Passable, hview p hway, place]
    have hne : p ≠ base ++ f.1 := by
      rintro rfl
      exact hapart.1 ((List.prefix_append_right_inj base).mp hway)
    rw [if_neg hne]
    by_cases hbefore : p <+: base ++ f.1.dropLast
    · rw [if_pos hbefore]
      exact iff_of_true (.inl rfl) (hf.opens p hbefore)
    · rw [if_neg hbefore]
  exact forall₂_congr fun p hp => hpassable p (hp.trans hl)

/-- **Whether a file fits does not depend on files that are put apart from it.** -/
theorem FileTree.Fits.step (hf : t.Fits base f.1) (hapart : Apart f g)
    (hview : ∀ l, l <+: base ++ g.1 → t₁.get? l = place base t.get? f l) :
    t₁.Fits base g.1 ↔ t.Fits base g.1 := by
  have hopen := hf.open_step hapart hview (List.prefix_refl _)
  have hsame : t₁.get? (base ++ g.1) = t.get? (base ++ g.1) := by
    rw [hview _ (List.prefix_refl _)]
    refine place_elsewhere fun h => hapart.2 ?_
    exact (List.prefix_append_right_inj base).mp h
  exact fits_iff_of_same hopen hsame

/-- A file that fits after another one has been put is apart from it, or has the same way. -/
theorem FileTree.Fits.apart (hg : t₁.Fits base g.1) (hways : f.1 ≠ []) (hne : f.1 ≠ g.1)
    (hview : ∀ l, t₁.get? l = place base t.get? f l) : Apart f g := by
  constructor
  · intro hbefore
    -- The first file is on the way to the second one.
    have hpass := hg.opens (base ++ f.1)
      ((List.prefix_append_right_inj base).mpr (prefix_dropLast_of_ne hbefore hne))
    rw [Passable, hview, place_self] at hpass
    simp at hpass
  · intro hbefore
    -- The second file would be where the first one has a folder.
    refine hg.free ?_
    rw [hview]
    exact place_onWay hways
      ((List.prefix_append_right_inj base).mpr (prefix_dropLast_of_ne hbefore (Ne.symm hne)))

end Step

end TestMigration.Files
