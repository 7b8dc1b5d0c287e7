import TestMigration.Proofs.Files.Staging
/-!
# Moving staged files

If there is an output directory already, staged files are moved there one by one. If all fit where
they are to go, all are moved (`moveFiles_of_all_fit`). Otherwise the first one that does not fit is
the end of it: the files before it have been moved, and folders made on the way to it, and nothing
of this is taken back (`moveFiles_of_first_not_fit`).
-/

namespace TestMigration.Files

open Text

variable {stage out l : List String} {t t₁ : FileTree} {f : List String × String}
  {files before after : List (List String × String)}

/-- Making folders on a way changes nothing below a folder apart from it. -/
theorem get?_makeFolders_of_other {location : List String} (hother : ¬stage <+: location)
    (hl : stage <+: l) : (t.makeFolders [] location).2.get? l = t.get? l :=
  FileTree.get?_makeFolders_of_not fun h => hother (hl.trans h.1)

/-- A staged file that fits is put where it is to go, and is no longer where it was. -/
theorem moveFiles_of_fits (rest : List (List String)) (hway : f.1 ≠ [])
    (hother : ¬stage <+: out ++ f.1)
    (hstaged : t.get? (stage ++ f.1) = some (.file (encode f.2))) (hfits : t.Fits out f.1) :
    ∃ t', (∀ l, t'.get? l = if stage ++ f.1 <+: l then none else place out t.get? f l) ∧
      moveFiles stage out t (f.1 :: rest) = moveFiles stage out t' rest := by
  obtain ⟨way, text⟩ := f
  obtain ⟨hmade, t', hwrite⟩ := (FileTree.fits_iff (.inl hway) (encode text)).mp hfits
  have hne : stage ++ way ≠ [] := by simp [hway]
  refine ⟨t'.remove (stage ++ way), fun l => ?_, ?_⟩
  · rw [FileTree.get?_remove hne]
    exact if_congr Iff.rfl rfl (FileTree.get?_of_write hway hfits.opens hwrite)
  · have hsource : (t.makeFolders [] (out ++ way.dropLast)).2.get? (stage ++ way) =
        some (.file (encode text)) := by
      rw [get?_makeFolders_of_other _ (List.prefix_append stage way)]
      · exact hstaged
      · intro h
        exact hother (prefix_of_prefix_dropLast h)
    rw [moveFiles]
    cases hfolders : t.makeFolders [] (out ++ way.dropLast) with
    | mk result =>
      rw [hfolders] at hmade hwrite hsource
      obtain rfl : result = .ok () := hmade
      simp only at hwrite hsource ⊢
      rw [FileTree.moveFile, FileTree.bytes?, hsource]
      simp only [hwrite, Except.map]

/-- Moving stops at a file that does not fit, with its folders made as far as possible. -/
theorem moveFiles_of_not_fits (rest : List (List String)) (hway : f.1 ≠ [])
    (hfits : ¬t.Fits out f.1) :
    ∃ failure, moveFiles stage out t (f.1 :: rest) =
      (.error failure, (t.makeFolders [] (out ++ f.1.dropLast)).2) := by
  obtain ⟨way, _⟩ := f
  rw [moveFiles]
  cases hfolders : t.makeFolders [] (out ++ way.dropLast) with
  | mk result t₂ =>
    cases result with
    | error failure => exact ⟨failure, rfl⟩
    | ok =>
      simp only [FileTree.moveFile]
      cases hbytes : t₂.bytes? (stage ++ way) with
      | none => exact ⟨_, rfl⟩
      | some bytes =>
        rw [FileTree.fits_iff (.inl hway) bytes, hfolders] at hfits
        cases hwrite : t₂.write (out ++ way) bytes with
        | error failure => exact ⟨failure, by simp only [hwrite, Except.map]⟩
        | ok t' => exact absurd ⟨rfl, t', hwrite⟩ hfits

/-- Staged files that can be moved one after the other. -/
structure Movable (stage out : List String) (t : FileTree) (files : List (List String × String)) :
    Prop where
  ways : ∀ f ∈ files, f.1 ≠ []
  apart : files.Pairwise Apart
  other : ∀ f ∈ files, ¬stage <+: out ++ f.1
  staged : ∀ f ∈ files, t.get? (stage ++ f.1) = some (.file (encode f.2))

theorem Movable.tail (h : Movable stage out t (f :: files))
    (hview : ∀ l, t₁.get? l = if stage ++ f.1 <+: l then none else place out t.get? f l) :
    Movable stage out t₁ files := by
  obtain ⟨hways, hapart, hother, hstaged⟩ := h
  rw [List.pairwise_cons] at hapart
  rw [List.forall_mem_cons] at hways hother hstaged
  refine ⟨hways.2, hapart.2, hother.2, fun g hg => ?_⟩
  rw [hview, if_neg, place_elsewhere]
  · exact hstaged.2 g hg
  · intro hle
    exact hother.1 ((List.prefix_append _ _).trans hle)
  · rw [List.prefix_append_right_inj]
    exact (hapart.1 g hg).1

/-- Outside of the staging folder, a moved file has been put. -/
theorem Movable.view
    (hview : ∀ l, t₁.get? l = if stage ++ f.1 <+: l then none else place out t.get? f l)
    (hl : ¬stage <+: l) : t₁.get? l = place out t.get? f l := by
  rw [hview, if_neg fun h => hl ((List.prefix_append _ _).trans h)]

/-- Moving a file does not change whether a later one fits, nor what can be come to on its way. -/
theorem Movable.fits_iff (h : Movable stage out t (f :: files)) {g : List String × String}
    (hg : g ∈ files) (hfits : t.Fits out f.1)
    (hview : ∀ l, t₁.get? l = if stage ++ f.1 <+: l then none else place out t.get? f l) :
    (t₁.Fits out g.1 ↔ t.Fits out g.1) ∧ ∀ l, l <+: out ++ g.1.dropLast →
      (t₁.Open l ↔ t.Open l) := by
  have hapart := (List.pairwise_cons.mp h.apart).1 g hg
  have hoff : ∀ l, l <+: out ++ g.1 → t₁.get? l = place out t.get? f l := by
    intro l hl
    refine Movable.view hview fun hstage => ?_
    exact h.other g (List.mem_cons_of_mem _ hg) (hstage.trans hl)
  exact ⟨hfits.step hapart hoff, fun l hl => hfits.open_step hapart hoff hl⟩

/-- **Files that all fit are all moved.** -/
theorem moveFiles_of_all_fit (h : Movable stage out t files) (hfits : ∀ f ∈ files, t.Fits out f.1) :
    (moveFiles stage out t (files.map Prod.fst)).1 = .ok () ∧ ∀ l, ¬stage <+: l →
        (moveFiles stage out t (files.map Prod.fst)).2.get? l = placeAll out t.get? files l := by
  induction files generalizing t with
  | nil => exact ⟨rfl, fun _ _ => rfl⟩
  | cons f rest ih =>
    have hf := hfits f List.mem_cons_self
    obtain ⟨t', hview, hrun⟩ := moveFiles_of_fits (rest.map Prod.fst) (h.ways f List.mem_cons_self)
      (h.other f List.mem_cons_self) (h.staged f List.mem_cons_self) hf
    have hrest : ∀ g ∈ rest, t'.Fits out g.1 := fun g hg =>
      (h.fits_iff hg hf hview).1.mpr (hfits g (List.mem_cons_of_mem _ hg))
    obtain ⟨hok, hget⟩ := ih (h.tail hview) hrest
    rw [List.map_cons, hrun]
    refine ⟨hok, fun l hl => ?_⟩
    rw [hget l hl]
    exact placeAll_congr (Movable.view hview hl)

/-- What is at a location after moving has stopped at a file: a folder made on the way to it, or
what the files before it have left. -/
structure StoppedAt (out : List String) (t : FileTree) (before : List (List String × String))
    (f : List String × String) (l : List String) (e : Option Entry) : Prop where
  made : l <+: out ++ f.1.dropLast → t.Open l → e = some .folder
  kept : ¬(l <+: out ++ f.1.dropLast ∧ t.Open l) → e = placeAll out t.get? before l

/-- **Moving stops at the first file that does not fit:** those before it have been moved, and its
folders are made as far as possible. -/
theorem moveFiles_of_first_not_fit (h : Movable stage out t (before ++ f :: after))
    (hbefore : ∀ g ∈ before, t.Fits out g.1) (hf : ¬t.Fits out f.1) :
    (∃ failure, (moveFiles stage out t ((before ++ f :: after).map Prod.fst)).1 = .error failure) ∧
      ∀ l, ¬stage <+: l → StoppedAt out t before f l
          ((moveFiles stage out t ((before ++ f :: after).map Prod.fst)).2.get? l) := by
  induction before generalizing t with
  | nil =>
    obtain ⟨failure, hrun⟩ :=
      moveFiles_of_not_fits (after.map Prod.fst) (h.ways f List.mem_cons_self) hf
    rw [List.nil_append, List.map_cons, hrun]
    refine ⟨⟨failure, rfl⟩, fun l _ => ⟨fun hl hopen => ?_, fun hl => ?_⟩⟩
    · exact FileTree.get?_makeFolders_of_open hl hopen
    · exact FileTree.get?_makeFolders_of_not hl
  | cons g rest ih =>
    have hmem : f ∈ rest ++ f :: after := by simp
    have hg := hbefore g List.mem_cons_self
    obtain ⟨t', hview, hrun⟩ := moveFiles_of_fits ((rest ++ f :: after).map Prod.fst)
      (h.ways g List.mem_cons_self) (h.other g List.mem_cons_self)
        (h.staged g List.mem_cons_self) hg
    have hrest : ∀ k ∈ rest, t'.Fits out k.1 := fun k hk =>
      (h.fits_iff (List.mem_append_left _ hk) hg hview).1.mpr
        (hbefore k (List.mem_cons_of_mem _ hk))
    have hf' : ¬t'.Fits out f.1 := fun h' => hf ((h.fits_iff hmem hg hview).1.mp h')
    obtain ⟨hfails, hget⟩ := ih (h.tail hview) hrest hf'
    rw [List.cons_append, List.map_cons, hrun]
    refine ⟨hfails, fun l hl => ⟨fun hway hopen => ?_, fun hnot => ?_⟩⟩
    · exact (hget l hl).made hway (((h.fits_iff hmem hg hview).2 l hway).mpr hopen)
    · have hkept := (hget l hl).kept fun ⟨hway, hopen⟩ =>
        hnot ⟨hway, ((h.fits_iff hmem hg hview).2 l hway).mp hopen⟩
      exact hkept.trans (placeAll_congr (Movable.view hview hl))

end TestMigration.Files
