import TestMigration.Proofs.Files.Moving
import TestMigration.Proofs.Text.Paths
/-!
# What delivery can come to

The files of a run are staged first and then brought to the output directory. If there is none yet,
the folder with the files is moved there as a whole, and if anything goes wrong before, nothing has
happened to it. Otherwise the files are moved one by one, and a file that does not fit is noticed
only when its turn comes. So there are four endings (`Delivered`), and each run has one of them
(`delivered_deliver`).

The staging folder is not among the folders made first, nor on the way to where a file goes, so it
plays no part in what there is in the end.
-/

namespace TestMigration.Files

open Text

/-! ### Before files are staged -/

section Prepare

variable {t : FileTree} {out way l : List String} {files : List (List String × String)}

theorem stageFolder_ne_nil : stageFolder t out files ≠ [] := by simp [stageFolder]

theorem get?_makeFolders_below (t : FileTree) (out way : List String) :
    (t.makeFolders [] out.dropLast).2.get? (out ++ way) = t.get? (out ++ way) := by
  by_cases hout : out = []
  · subst hout
    rfl
  · refine FileTree.get?_makeFolders_of_not fun h => not_prefix_dropLast hout ?_
    exact (List.prefix_append out way).trans h.1

/-- The way to the output directory does not go below the staging folder. -/
theorem stageFolder_not_before (hl : l <+: out.dropLast) : ¬stageFolder t out files <+: l := by
  intro h
  have hlength := (h.trans hl).length_le
  simp only [stageFolder, List.length_append, List.length_singleton] at hlength
  omega

theorem stageFolder_not_prefix_out : ¬stageFolder t out files <+: out := by
  by_cases hout : out = []
  · subst hout
    intro h
    exact stageFolder_ne_nil (List.prefix_nil.mp h)
  · simpa using stageFolder_not_out hout []

/-- Below the staging folder there is nothing to begin with. -/
theorem get?_stageFolder (ht : t.Sound) (hl : stageFolder t out files <+: l) : t.get? l = none := by
  obtain ⟨way, rfl⟩ := hl
  refine ht.none_below ?_ way
  rw [← FileTree.get?_makeFolders_of_not fun h => stageFolder_not_before h.1 (List.prefix_refl _)]
  exact (stageName_fresh _ out files).1

theorem get?_stageFolder_made (ht : t.Sound) (hl : stageFolder t out files <+: l) :
    (t.makeFolders [] out.dropLast).2.get? l = none := by
  rw [FileTree.get?_makeFolders_of_not fun h => stageFolder_not_before h.1 hl]
  exact get?_stageFolder ht hl

/-- The tree in which files are staged: there are folders down to the staging folder. -/
def prepared (t : FileTree) (out : List String) (files : List (List String × String)) : FileTree :=
  (t.makeFolders [] out.dropLast).2.put (stageFolder t out files) .folder

theorem get?_prepared :
    (prepared t out files).get? l = if stageFolder t out files = l then some .folder
    else (t.makeFolders [] out.dropLast).2.get? l :=
  FileTree.get?_put stageFolder_ne_nil _

theorem get?_prepared_of_off (hl : ¬stageFolder t out files <+: l) :
    (prepared t out files).get? l = (t.makeFolders [] out.dropLast).2.get? l := by
  rw [get?_prepared, if_neg]
  rintro rfl
  exact hl (List.prefix_refl _)

theorem rooted_prepared (hparent : t.Open out.dropLast) :
    (prepared t out files).Rooted (stageFolder t out files) := by
  intro l hl
  rw [get?_prepared]
  by_cases heq : stageFolder t out files = l
  · rw [if_pos heq]
  · rw [if_neg heq]
    have hbefore := prefix_dropLast_of_ne hl (Ne.symm heq)
    rw [stageFolder, List.dropLast_concat] at hbefore
    exact FileTree.get?_makeFolders_of_open hbefore (hparent.mono hbefore)

/-- Files can be staged in a folder in which there is nothing. -/
def Stageable (stage : List String) (files : List (List String × String)) : Prop :=
  (∀ f ∈ files, f.1 ≠ [] ∧ (∀ p, p <+: f.1 → locationProblem? (stage ++ p) = none) ∧
    encodingFault? f.2 = none) ∧ files.Pairwise Apart

theorem fits_prepared_iff (ht : t.Sound) (hparent : t.Open out.dropLast)
    (hstage : locationProblem? (stageFolder t out files) = none) :
    (prepared t out files).Fits (stageFolder t out files) way ↔
      way ≠ [] ∧ ∀ p, p <+: way → locationProblem? (stageFolder t out files ++ p) = none := by
  set stage := stageFolder t out files with hdef
  have hroot : (prepared t out files).Rooted stage := rooted_prepared hparent
  have hnone : ∀ p, p ≠ [] → (prepared t out files).get? (stage ++ p) = none := by
    intro p hp
    rw [get?_prepared, if_neg (by simpa [← hdef] using hp)]
    exact get?_stageFolder_made ht (List.prefix_append _ _)
  constructor
  · rintro ⟨hopens, hfree, hfine⟩
    refine ⟨hroot.ne_nil ⟨hopens, hfree, hfine⟩, fun p hp => ?_⟩
    · by_cases hnil : p = []
      · rwa [hnil, List.append_nil]
      by_cases hall : p = way
      · rwa [hall]
      have hpass := hopens (stage ++ p)
        ((List.prefix_append_right_inj stage).mpr (prefix_dropLast_of_ne hp hall))
      rw [FileTree.Passable, hnone p hnil] at hpass
      exact (hpass.resolve_left (by simp)).2
  · rintro ⟨hway, hfine⟩
    refine ⟨fun l hl => ?_, by rw [hnone way hway]; simp, hfine way (List.prefix_refl _)⟩
    rcases List.prefix_or_prefix_of_prefix hl (List.prefix_append stage way.dropLast) with
      hbefore | hbelow
    · exact .inl (hroot l hbefore)
    · obtain ⟨p, rfl⟩ := hbelow
      by_cases hnil : p = []
      · exact .inl (hroot _ (by simp [hnil]))
      · have hp := (List.prefix_append_right_inj stage).mp hl
        exact .inr ⟨hnone p hnil, hfine p (hp.trans <| List.dropLast_prefix _)⟩

theorem stageFiles_prepared_ok_iff (ht : t.Sound) (hparent : t.Open out.dropLast)
    (hstage : locationProblem? (stageFolder t out files) = none)
    (hways : (files.map Prod.fst).Nodup) :
    (stageFiles (stageFolder t out files) (prepared t out files) files).1 = .ok () ↔
      Stageable (stageFolder t out files) files := by
  rw [stageFiles_ok_iff (rooted_prepared hparent) hways]
  refine and_congr_left fun _ => forall₂_congr fun f _ => ?_
  rw [fits_prepared_iff ht hparent hstage, and_assoc]

end Prepare

/-! ### Delivery -/

section Deliver

variable {t : FileTree} {out l : List String} {f : List String × String}
  {files before after : List (List String × String)}

/-- Delivery fails early, or it stages the files and brings them to the output directory. -/
theorem deliver_of_not_ready
    (h : ¬(t.Open out.dropLast ∧ locationProblem? (stageFolder t out files) = none)) :
    (∃ failure, (deliver t out files).1 = .error failure) ∧
      (deliver t out files).2 = (t.makeFolders [] out.dropLast).2 := by
  rw [deliver]
  cases hmade : t.makeFolders [] out.dropLast with
  | mk result t₁ =>
    cases result with
    | error failure => exact ⟨⟨failure, rfl⟩, rfl⟩
    | ok =>
      have hparent : t.Open out.dropLast := FileTree.makeFolders_ok_iff.mp (by rw [hmade])
      rw [stageFolder, hmade] at h
      cases hproblem : locationProblem? (out.dropLast ++ [stageName t₁ out files]) with
      | none => exact absurd ⟨hparent, hproblem⟩ h
      | some => simp [hproblem]

theorem deliver_of_ready (hparent : t.Open out.dropLast)
    (hstage : locationProblem? (stageFolder t out files) = none) : deliver t out files =
      ((stageAndInstall (stageFolder t out files) out (prepared t out files) files).1,
        (stageAndInstall (stageFolder t out files) out (prepared t out files) files).2.remove
          (stageFolder t out files)) := by
  have hok := FileTree.makeFolders_ok_iff.mpr hparent
  rw [prepared]
  rw [stageFolder] at hstage ⊢
  rw [deliver]
  cases hmade : t.makeFolders [] out.dropLast with
  | mk result =>
    rw [hmade] at hok hstage
    obtain rfl : result = .ok () := hok
    simp only at hstage ⊢
    rw [hstage]

theorem get?_remove_stage {t' : FileTree} {v : View}
    (hon : ∀ l, stageFolder t out files <+: l → v l = none)
    (hoff : ∀ l, ¬stageFolder t out files <+: l → t'.get? l = v l) (l : List String) :
    (t'.remove (stageFolder t out files)).get? l = v l := by
  rw [FileTree.get?_remove stageFolder_ne_nil]
  by_cases hl : stageFolder t out files <+: l
  · rw [if_pos hl, hon l hl]
  · rw [if_neg hl, hoff l hl]

/-- When files are brought to the output directory. -/
structure Ready (t : FileTree) (out : List String) (files : List (List String × String)) :
    Prop where
  parent : t.Open out.dropLast
  fine : locationProblem? (stageFolder t out files) = none
  stageable : Stageable (stageFolder t out files) files

def staged (t : FileTree) (out : List String) (files : List (List String × String)) : FileTree :=
  (stageFiles (stageFolder t out files) (prepared t out files) files).2

theorem get?_staged_of_off (hparent : t.Open out.dropLast) (hl : ¬stageFolder t out files <+: l) :
    (staged t out files).get? l = (t.makeFolders [] out.dropLast).2.get? l := by
  rw [staged, get?_stageFiles_of_off (rooted_prepared hparent) hl, get?_prepared_of_off hl]

variable (ht : t.Sound) (hways : (files.map Prod.fst).Nodup)
include ht hways

theorem Ready.deliver_eq (h : Ready t out files) : deliver t out files =
      ((install (stageFolder t out files) out (staged t out files) (files.map Prod.fst)).1,
        (install (stageFolder t out files) out (staged t out files) (files.map Prod.fst)).2.remove
          (stageFolder t out files)) := by
  have hok := (stageFiles_prepared_ok_iff ht h.parent h.fine hways).mpr h.stageable
  rw [deliver_of_ready h.parent h.fine, staged]
  have hinstall : stageAndInstall (stageFolder t out files) out (prepared t out files) files =
      install (stageFolder t out files) out
        (stageFiles (stageFolder t out files) (prepared t out files) files).2
          (files.map Prod.fst) := by
    rw [stageAndInstall]
    cases hrun : stageFiles (stageFolder t out files) (prepared t out files) files with
    | mk result =>
      rw [hrun] at hok
      obtain rfl : result = .ok () := hok
      rfl
  rw [hinstall]

theorem Ready.movable (h : Ready t out files) :
    Movable (stageFolder t out files) out (staged t out files) files := by
  have hok := (stageFiles_prepared_ok_iff ht h.parent h.fine hways).mpr h.stageable
  refine ⟨fun f hf => (h.stageable.1 f hf).1, h.stageable.2, stageFolder_not_onWay t out files,
    fun f hf => ?_⟩
  rw [staged, get?_stageFiles (rooted_prepared h.parent) hok, placeAll_of_mem h.stageable.2 hf]

/-- **If the files cannot be staged, nothing happens to the output directory.** -/
theorem deliver_of_not_stageable (h : ¬Ready t out files) :
    (∃ failure, (deliver t out files).1 = .error failure) ∧
      ∀ l, (deliver t out files).2.get? l = (t.makeFolders [] out.dropLast).2.get? l := by
  by_cases hready : t.Open out.dropLast ∧ locationProblem? (stageFolder t out files) = none
  · obtain ⟨hparent, hfine⟩ := hready
    have hfails := mt (stageFiles_prepared_ok_iff ht hparent hfine hways).mp fun hstageable =>
      h ⟨hparent, hfine, hstageable⟩
    have hstops : stageAndInstall (stageFolder t out files) out (prepared t out files) files =
        stageFiles (stageFolder t out files) (prepared t out files) files := by
      rw [stageAndInstall]
      cases hrun : stageFiles (stageFolder t out files) (prepared t out files) files with
      | mk result =>
        cases result with
        | error failure => rfl
        | ok => exact absurd (by rw [hrun]) hfails
    rw [deliver_of_ready hparent hfine, hstops]
    refine ⟨?_, get?_remove_stage (fun l hl => get?_stageFolder_made ht hl) fun l hl => ?_⟩
    · cases hresult : (stageFiles (stageFolder t out files) (prepared t out files) files).1 with
      | error failure => exact ⟨failure, rfl⟩
      | ok => exact absurd hresult hfails
    · exact get?_staged_of_off hparent hl
  · obtain ⟨hfails, htree⟩ := deliver_of_not_ready hready
    exact ⟨hfails, fun l => by rw [htree]⟩

/-! #### Where there is no output directory -/

theorem deliver_of_no_place (h : Ready t out files) (hnone : t.get? out = none)
    (hproblem : locationProblem? out ≠ none) :
    (∃ failure, (deliver t out files).1 = .error failure) ∧
      ∀ l, (deliver t out files).2.get? l = (t.makeFolders [] out.dropLast).2.get? l := by
  have hmissing : (staged t out files).get? out = none := by
    have hbelow := get?_makeFolders_below t out []
    rw [List.append_nil] at hbelow
    rw [get?_staged_of_off h.parent stageFolder_not_prefix_out, hbelow, hnone]
  obtain ⟨_, hproblem⟩ := Option.ne_none_iff_exists'.mp hproblem
  rw [h.deliver_eq ht hways, install, hmissing, hproblem]
  refine ⟨⟨_, rfl⟩, get?_remove_stage (fun l hl => get?_stageFolder_made ht hl) fun l hl => ?_⟩
  exact get?_staged_of_off h.parent hl

/-- **A new output directory gets the files as a whole.** -/
theorem deliver_to_new (h : Ready t out files) (hnone : t.get? out = none)
    (hproblem : locationProblem? out = none) :
    (deliver t out files).1 = .ok () ∧ ∀ l, (deliver t out files).2.get? l =
        placeAll out (fun l => if l <+: out then some .folder else t.get? l) files l := by
  have hout : out ≠ [] := by
    rintro rfl
    simp at hnone
  have hfree : ∀ way, (staged t out files).get? (out ++ way) = none := by
    intro way
    rw [get?_staged_of_off h.parent (stageFolder_not_out hout way), get?_makeFolders_below]
    exact ht.none_below hnone way
  have hmissing := hfree []
  rw [List.append_nil] at hmissing
  rw [h.deliver_eq ht hways, install, hmissing, hproblem]
  refine ⟨rfl, get?_remove_stage (fun l hl => ?_) fun l hl => ?_⟩
  · -- What is staged is not on the way to where a file goes.
    rw [placeAll_elsewhere fun f hf hway => stageFolder_not_onWay t out files f hf (hl.trans hway),
      if_neg]
    · exact get?_stageFolder ht hl
    · intro hbefore
      exact stageFolder_not_prefix_out (hl.trans hbefore)
  · rw [FileTree.get?_moveFolder stageFolder_ne_nil hout hfree]
    by_cases hbelow : out <+: l
    · obtain ⟨way, rfl⟩ := hbelow
      have hok := (stageFiles_prepared_ok_iff ht h.parent h.fine hways).mpr h.stageable
      rw [if_pos (List.prefix_append _ _), List.drop_left, staged,
        get?_stageFiles (rooted_prepared h.parent) hok]
      -- Each file is as far below the one folder as below the other.
      refine placeAll_rebase ?_
      rw [get?_prepared]
      by_cases hnil : way = []
      · simp [hnil]
      · rw [if_neg (by simpa using hnil), get?_stageFolder_made ht (List.prefix_append _ _), if_neg,
          ht.none_below hnone way]
        intro hle
        have := hle.length_le
        have := List.length_pos_of_ne_nil hnil
        rw [List.length_append] at *
        omega
    · rw [if_neg hbelow, if_neg hl, get?_staged_of_off h.parent hl,
        placeAll_of_off (by simp +contextual) hbelow]
      by_cases hbefore : l <+: out
      · have hparent : l <+: out.dropLast :=
          prefix_dropLast_of_ne hbefore fun heq => hbelow (heq ▸ List.prefix_refl _)
        rw [if_pos hbefore, FileTree.get?_makeFolders_of_open hparent (h.parent.mono hparent)]
      · rw [if_neg hbefore, FileTree.get?_makeFolders_of_not fun hway =>
          hbefore (hway.1.trans <| List.dropLast_prefix _)]

/-! #### Where there is one -/

variable (hout : t.get? out ≠ none)
include hout
omit hways

/-- On the way to what is there, there are folders. -/
theorem folder_of_there (hl : l <+: out.dropLast) :
    t.get? l = some .folder := by
  by_cases hnil : out = []
  · subst hnil
    rw [List.dropLast_nil, List.prefix_nil] at hl
    rw [hl, FileTree.get?_nil]
  · refine ht.folder_before (Option.isSome_iff_ne_none.mpr hout)
      (hl.trans <| List.dropLast_prefix _) ?_
    rintro rfl
    exact not_prefix_dropLast hnil hl

theorem get?_makeFolders_of_there (l : List String) :
    (t.makeFolders [] out.dropLast).2.get? l = t.get? l := by
  by_cases hl : l <+: out.dropLast ∧ t.Open l
  · rw [FileTree.get?_makeFolders_of_open hl.1 hl.2, folder_of_there ht hout hl.1]
  · exact FileTree.get?_makeFolders_of_not hl

theorem Ready.get?_staged (h : Ready t out files) (hl : ¬stageFolder t out files <+: l) :
    (staged t out files).get? l = t.get? l := by
  rw [get?_staged_of_off h.parent hl, get?_makeFolders_of_there ht hout]

theorem Ready.get?_staged_onWay (h : Ready t out files) (hf : f ∈ files) (hl : l <+: out ++ f.1) :
    (staged t out files).get? l = t.get? l :=
  h.get?_staged ht hout fun hstage => stageFolder_not_onWay t out files f hf (hstage.trans hl)

theorem Ready.fits_staged_iff (h : Ready t out files) (hf : f ∈ files) :
    (staged t out files).Fits out f.1 ↔ t.Fits out f.1 :=
  FileTree.fits_congr fun _ hp => h.get?_staged_onWay ht hout hf hp

include hways

theorem Ready.deliver_eq_of_there (h : Ready t out files) : deliver t out files =
      ((moveFiles (stageFolder t out files) out (staged t out files) (files.map Prod.fst)).1,
        (moveFiles (stageFolder t out files) out (staged t out files) (files.map Prod.fst)).2.remove
          (stageFolder t out files)) := by
  have hthere : (staged t out files).get? out ≠ none := by
    rwa [h.get?_staged ht hout stageFolder_not_prefix_out]
  obtain ⟨e, he⟩ := Option.ne_none_iff_exists'.mp hthere
  rw [h.deliver_eq ht hways, install, he]

/-- **If all files fit in an output directory that is there, all arrive.** -/
theorem deliver_of_all_fit (h : Ready t out files) (hfits : ∀ f ∈ files, t.Fits out f.1) :
    (deliver t out files).1 = .ok () ∧
      ∀ l, (deliver t out files).2.get? l = placeAll out t.get? files l := by
  obtain ⟨hok, hget⟩ := moveFiles_of_all_fit (h.movable ht hways) fun f hf =>
    (h.fits_staged_iff ht hout hf).mpr (hfits f hf)
  rw [h.deliver_eq_of_there ht hways hout]
  refine ⟨hok, get?_remove_stage (fun l hl => ?_) fun l hl => ?_⟩
  · rw [placeAll_elsewhere fun f hf hway => stageFolder_not_onWay t out files f hf (hl.trans hway)]
    exact get?_stageFolder ht hl
  · rw [hget l hl]
    exact placeAll_congr (h.get?_staged ht hout hl)

/-- **Delivery stops at the first file that does not fit in an output directory that is there.** -/
theorem deliver_of_first_not_fit (h : Ready t out files) (hsplit : files = before ++ f :: after)
    (hbefore : ∀ g ∈ before, t.Fits out g.1) (hf : ¬t.Fits out f.1) :
    (∃ failure, (deliver t out files).1 = .error failure) ∧
      ∀ l, StoppedAt out t before f l ((deliver t out files).2.get? l) := by
  have hmem : f ∈ files := by simp [hsplit]
  have hmem' : ∀ g ∈ before, g ∈ files := fun g hg => by simp [hsplit, hg]
  have hmovable : Movable (stageFolder t out files) out (staged t out files)
      (before ++ f :: after) :=
    hsplit ▸ h.movable ht hways
  obtain ⟨hfails, hget⟩ := moveFiles_of_first_not_fit hmovable
    (fun g hg => (h.fits_staged_iff ht hout (hmem' g hg)).mpr (hbefore g hg))
    (mt (h.fits_staged_iff ht hout hmem).mp hf)
  rw [← hsplit] at hfails hget
  rw [h.deliver_eq_of_there ht hways hout]
  refine ⟨hfails, fun l => ?_⟩
  rw [FileTree.get?_remove stageFolder_ne_nil]
  by_cases hl : stageFolder t out files <+: l
  · rw [if_pos hl]
    refine ⟨fun hway _ => ?_, fun _ => ?_⟩
    · exact absurd (hl.trans (prefix_of_prefix_dropLast hway))
        (stageFolder_not_onWay t out files f hmem)
    · rw [placeAll_elsewhere fun g hg hway =>
        stageFolder_not_onWay t out files g (hmem' g hg) (hl.trans hway), get?_stageFolder ht hl]
  · rw [if_neg hl]
    have hopen : ∀ hway : l <+: out ++ f.1.dropLast, (staged t out files).Open l ↔ t.Open l :=
      fun hway => FileTree.open_congr fun p hp =>
        h.get?_staged_onWay ht hout hmem (hp.trans (prefix_of_prefix_dropLast hway))
    refine ⟨fun hway ho => (hget l hl).made hway ((hopen hway).mpr ho), fun hnot => ?_⟩
    have hkept := (hget l hl).kept fun ⟨hway, ho⟩ => hnot ⟨hway, (hopen hway).mp ho⟩
    exact hkept.trans (placeAll_congr (h.get?_staged ht hout hl))

/-- The endings of a delivery, with what is at a location afterwards. -/
inductive Delivered (t : FileTree) (out : List String) (files : List (List String × String)) :
    Except FileFailure Unit × FileTree → Prop
  | refused {failure : FileFailure} {t' : FileTree}
      (hnot : ¬(Ready t out files ∧ t.get? out ≠ none))
      (hview : ∀ l, t'.get? l = (t.makeFolders [] out.dropLast).2.get? l) :
      Delivered t out files (.error failure, t')
  | whole {t' : FileTree} (hready : Ready t out files) (hnone : t.get? out = none)
      (hview : ∀ l, t'.get? l =
        placeAll out (fun l => if l <+: out then some .folder else t.get? l) files l) :
      Delivered t out files (.ok (), t')
  | moved {t' : FileTree} (hready : Ready t out files) (hfits : ∀ f ∈ files, t.Fits out f.1)
      (hview : ∀ l, t'.get? l = placeAll out t.get? files l) :
      Delivered t out files (.ok (), t')
  | stopped {failure : FileFailure} {t' : FileTree} (before : List (List String × String))
      (f : List String × String) (after : List (List String × String)) (hready : Ready t out files)
      (hthere : t.get? out ≠ none) (hsplit : files = before ++ f :: after)
      (hbefore : ∀ g ∈ before, t.Fits out g.1)
      (hf : ¬t.Fits out f.1) (hview : ∀ l, StoppedAt out t before f l (t'.get? l)) :
      Delivered t out files (.error failure, t')

omit ht hways hout in
theorem exists_first_not_fit (h : ¬∀ f ∈ files, t.Fits out f.1) :
    ∃ before f after, files = before ++ f :: after ∧ (∀ g ∈ before, t.Fits out g.1) ∧
      ¬t.Fits out f.1 := by
  induction files with
  | nil => simp at h
  | cons f rest ih =>
    by_cases hf : t.Fits out f.1
    · rw [List.forall_mem_cons, not_and] at h
      obtain ⟨before, g, after, rfl, hbefore, hg⟩ := ih (h hf)
      refine ⟨f :: before, g, after, rfl, ?_, hg⟩
      rw [List.forall_mem_cons]
      exact ⟨hf, hbefore⟩
    · exact ⟨[], f, rest, rfl, by simp, hf⟩

omit hout in
/-- **Each run that delivers files has one of the endings.** -/
theorem delivered_deliver : Delivered t out files (deliver t out files) := by
  by_cases hready : Ready t out files
  · by_cases hout : t.get? out = none
    · by_cases hproblem : locationProblem? out = none
      · obtain ⟨hok, hview⟩ := deliver_to_new ht hways hready hout hproblem
        rw [← Prod.eta (deliver t out files), hok]
        exact .whole hready hout hview
      · obtain ⟨⟨failure, hfails⟩, hview⟩ := deliver_of_no_place ht hways hready hout hproblem
        rw [← Prod.eta (deliver t out files), hfails]
        exact .refused (fun h => h.2 hout) hview
    · by_cases hfits : ∀ f ∈ files, t.Fits out f.1
      · obtain ⟨hok, hview⟩ := deliver_of_all_fit ht hways hout hready hfits
        rw [← Prod.eta (deliver t out files), hok]
        exact .moved hready hfits hview
      · obtain ⟨before, f, after, hsplit, hbefore, hf⟩ := exists_first_not_fit hfits
        obtain ⟨⟨failure, hfails⟩, hview⟩ :=
          deliver_of_first_not_fit ht hways hout hready hsplit hbefore hf
        rw [← Prod.eta (deliver t out files), hfails]
        exact .stopped before f after hready hout hsplit hbefore hf hview
  · obtain ⟨⟨failure, hfails⟩, hview⟩ := deliver_of_not_stageable ht hways hready
    rw [← Prod.eta (deliver t out files), hfails]
    exact .refused (fun h => hready h.1) hview

end Deliver

end TestMigration.Files
