import TestMigration.Proofs.Files.Delivery
/-!
# Output that is written whole, or left half done

Writing units is all or nothing if a success leaves every text at its path and all other files as
they were, and a failure leaves the output directory as it was (`AllOrNothing`). That is so exactly
if the output is not left half done (`writeUnits_allOrNothing_iff`): the paths are fine and the
files can be staged, there is an output directory already, some file does not fit there, and before
that is noticed something has changed, be it a file that was moved or a folder made on the way to
the one that does not fit.
-/

namespace TestMigration.Files

open Text

/-! ### Writing units -/

section Write

variable {t : FileTree} {out l : List String} {units : List (String × String)}

/-- A path that is not refused. -/
def StaysInside (path : String) : Prop := checkPath path = .ok (Path.normalize path)

/-- Files by the names on the way to them. -/
def filesOf (units : List (String × String)) : List (List String × String) :=
  units.map fun u => (wayOf (Path.normalize u.1), u.2)

theorem eq_normalize_of_checkPath {path normal : String} (h : checkPath path = .ok normal) :
    normal = Path.normalize path := by
  simp only [checkPath] at h
  split at h
  · cases h
  · exact (Except.ok.inj h).symm

theorem mapM_checkPath_eq_ok_iff {paths : List String} :
    units.mapM (fun u => checkPath u.1) = .ok paths ↔
      (∀ u ∈ units, StaysInside u.1) ∧ paths = units.map fun u => Path.normalize u.1 := by
  induction units generalizing paths with
  | nil => simp [pure, Except.pure, eq_comm]
  | cons u rest ih =>
    simp only [List.mapM_cons, bind_eq_ok_iff]
    rw [List.forall_mem_cons, List.map_cons]
    constructor
    · rintro ⟨_, hu, _, hrest, hpaths⟩
      obtain rfl := eq_normalize_of_checkPath hu
      obtain ⟨hall, rfl⟩ := ih.mp hrest
      exact ⟨⟨hu, hall⟩, (Except.ok.inj hpaths).symm⟩
    · rintro ⟨⟨hu, hall⟩, rfl⟩
      exact ⟨_, hu, _, ih.mpr ⟨hall, rfl⟩, rfl⟩

theorem repeated_eq_nil_iff {paths : List String} : repeated paths = [] ↔ paths.Nodup := by
  rw [List.nodup_iff_count_le_one, List.eq_nil_iff_forall_not_mem]
  simp only [repeated, mem_distinct, sortTexts, mem_sortBy, List.mem_filter, decide_eq_true_eq,
    not_and, not_lt]
  constructor
  · intro h p
    by_cases hp : p ∈ paths
    · exact h p hp
    · rw [List.count_eq_zero_of_not_mem hp]
      omega
  · intro h p _
    exact h p

theorem StaysInside.leadingSlashes {path : String} (h : StaysInside path) :
    Path.leadingSlashes path = 0 := by
  by_contra hne
  have habsolute := Path.isAbsolute_normalize hne
  simp [StaysInside, checkPath, habsolute] at h

theorem nodup_ways (hinside : ∀ u ∈ units, StaysInside u.1)
    (hnodup : (units.map fun u => Path.normalize u.1).Nodup) :
    ((filesOf units).map Prod.fst).Nodup := by
  induction units with
  | nil => exact List.nodup_nil
  | cons u _ ih =>
    rw [List.forall_mem_cons] at hinside
    rw [List.map_cons, List.nodup_cons] at hnodup
    rw [filesOf, List.map_cons, List.map_cons, List.nodup_cons]
    refine ⟨fun hmem => hnodup.1 ?_, ih hinside.2 hnodup.2⟩
    obtain ⟨f, hf, hway⟩ := List.mem_map.mp hmem
    obtain ⟨u', hu', rfl⟩ := List.mem_map.mp hf
    refine List.mem_map.mpr ⟨u', hu', ?_⟩
    simp only [wayOf] at hway
    exact Path.normalize_eq_of_steps_eq
      (hinside.2 u' hu').leadingSlashes hinside.1.leadingSlashes hway

theorem writeUnits_of_fine (hinside : ∀ u ∈ units, StaysInside u.1)
    (hnodup : (units.map fun u => Path.normalize u.1).Nodup) :
    (writeUnits t out units).2 = (deliver t out (filesOf units)).2 ∧
      ((∃ paths, (writeUnits t out units).1 = .ok paths) ↔
        (deliver t out (filesOf units)).1 = .ok ()) := by
  have hpaths := mapM_checkPath_eq_ok_iff.mpr ⟨hinside, rfl⟩
  have hfiles : ((units.map fun u => Path.normalize u.1).map wayOf).zip (units.map Prod.snd) =
      filesOf units := by
    simp only [filesOf, List.map_map, List.zip_map', Function.comp_def]
  rw [writeUnits, hpaths]
  simp only [repeated_eq_nil_iff.mpr hnodup, hfiles]
  cases hrun : deliver t out (filesOf units) with
  | mk result => cases result <;> simp

theorem writeUnits_of_not_fine (t : FileTree) (out : List String)
    (h : ¬((∀ u ∈ units, StaysInside u.1) ∧ (units.map fun u => Path.normalize u.1).Nodup)) :
    (∃ problem, (writeUnits t out units).1 = .error problem) ∧ (writeUnits t out units).2 = t := by
  rw [writeUnits]
  cases hpaths : units.mapM fun u => checkPath u.1 with
  | error problem => exact ⟨⟨problem, rfl⟩, rfl⟩
  | ok =>
    obtain ⟨hinside, rfl⟩ := mapM_checkPath_eq_ok_iff.mp hpaths
    have hrepeated := mt repeated_eq_nil_iff.mp fun hnodup => h ⟨hinside, hnodup⟩
    obtain ⟨_, _, hcons⟩ := List.exists_cons_of_ne_nil hrepeated
    simp [hcons]

end Write

/-! ### All or nothing -/

section AllOrNothing

variable {t : FileTree} {out l : List String} {units : List (String × String)}
  {files : List (List String × String)} {r : Except FileFailure Unit × FileTree}

/-- Every file is where it is to go, and all others are as they were. -/
structure Complete (t t' : FileTree) (out : List String) (files : List (List String × String)) :
    Prop where
  there : ∀ f ∈ files, t'.get? (out ++ f.1) = some (.file (encode f.2))
  others : ∀ l bytes, t.get? l = some (.file bytes) → (∀ f ∈ files, l ≠ out ++ f.1) →
    t'.get? l = some (.file bytes)

/-- The output directory and what is below it are as they were. -/
def Untouched (t t' : FileTree) (out : List String) : Prop :=
  ∀ way, t'.get? (out ++ way) = t.get? (out ++ way)

/-- Units are all written, or nothing is. -/
structure AllOrNothing (t : FileTree) (out : List String) (units : List (String × String)) :
    Prop where
  all : ∀ paths, (writeUnits t out units).1 = .ok paths →
    Complete t (writeUnits t out units).2 out (filesOf units)
  nothing : ∀ problem, (writeUnits t out units).1 = .error problem →
    Untouched t (writeUnits t out units).2 out

/-- Something has changed before a file is found not to fit: a file moved before it was not there
already, or a folder on the way was missing. -/
def ChangesBefore (t : FileTree) (out : List String) (before : List (List String × String))
    (f : List String × String) : Prop :=
  (∃ g ∈ before, t.get? (out ++ g.1) ≠ some (.file (encode g.2))) ∨
    ∃ l, l <+: out ++ f.1.dropLast ∧ t.Open l ∧ t.get? l = none

/-- The files can be staged, but do not all fit in the output directory, which is noticed too
late. -/
structure HalfDone (t : FileTree) (out : List String) (units : List (String × String)) : Prop where
  inside : ∀ u ∈ units, StaysInside u.1
  different : (units.map fun u => Path.normalize u.1).Nodup
  fine : locationProblem? (stageFolder t out (filesOf units)) = none
  stageable : Stageable (stageFolder t out (filesOf units)) (filesOf units)
  there : t.get? out ≠ none
  stops : ∃ before f after, filesOf units = before ++ f :: after ∧ (∀ g ∈ before, t.Fits out g.1) ∧
    ¬t.Fits out f.1 ∧ ChangesBefore t out before f

theorem HalfDone.ready (h : HalfDone t out units) (ht : t.Sound) : Ready t out (filesOf units) :=
  ⟨fun _ hl => .inl (folder_of_there ht h.there hl), h.fine, h.stageable⟩

theorem placeAll_of_file {v : View} {bytes : List UInt8} (hready : Ready t out files)
    (hfits : ∀ f ∈ files, t.Fits out f.1) (hl : t.get? l = some (.file bytes))
    (hne : ∀ f ∈ files, l ≠ out ++ f.1) : placeAll out v files l = v l := by
  refine placeAll_elsewhere fun f hf hway => ?_
  have hbefore := prefix_dropLast_of_ne hway (hne f hf)
  rw [List.dropLast_append_of_ne_nil (hready.stageable.1 f hf).1] at hbefore
  have hpass := (hfits f hf).opens l hbefore
  rw [FileTree.Passable, hl] at hpass
  simp at hpass

/-- A success leaves every file where it is to go, and all others as they were. -/
theorem Delivered.complete (h : Delivered t out files r) (ht : t.Sound) (hok : r.1 = .ok ()) :
    Complete t r.2 out files := by
  cases h with
  | refused => cases hok
  | stopped => cases hok
  | whole hready hnone hview =>
    refine ⟨fun f hf => ?_, fun l bytes hl _ => ?_⟩
    · rw [hview, placeAll_of_mem hready.stageable.2 hf]
    · -- There were no files below the output directory, nor on the way to it.
      have hbelow : ¬out <+: l := by
        rintro ⟨way, rfl⟩
        rw [ht.none_below hnone way] at hl
        cases hl
      have hbefore : ¬l <+: out := by
        intro hle
        have hparent := prefix_dropLast_of_ne hle fun heq => hbelow (heq ▸ List.prefix_refl _)
        have hpass := hready.parent l hparent
        rw [FileTree.Passable, hl] at hpass
        simp at hpass
      rw [hview, placeAll_of_off (fun hle => absurd hle hbefore) hbelow, if_neg hbefore, hl]
  | moved hready hfits hview =>
    refine ⟨fun f hf => ?_, fun l bytes hl hne => ?_⟩
    · rw [hview, placeAll_of_mem hready.stageable.2 hf]
    · rw [hview, placeAll_of_file hready hfits hl hne, hl]

/-- What was put before a file that does not fit has changed nothing, unless a file was not there
already. -/
theorem placeAll_of_already {before : List (List String × String)} (ht : t.Sound)
    (hfits : ∀ g ∈ before, t.Fits out g.1)
    (hsame : ∀ g ∈ before, t.get? (out ++ g.1) = some (.file (encode g.2))) :
    placeAll out t.get? before l = t.get? l := by
  induction before with
  | nil => rfl
  | cons g rest ih =>
    rw [List.forall_mem_cons] at hfits hsame
    have hcons : placeAll out t.get? (g :: rest) l = placeAll out (place out t.get? g) rest l := rfl
    refine (hcons.trans (placeAll_congr ?_)).trans (ih hfits.2 hsame.2)
    rw [place]
    by_cases hl : l = out ++ g.1
    · rw [if_pos hl, hl, hsame.1]
    · rw [if_neg hl]
      by_cases hway : l <+: out ++ g.1.dropLast
      · -- On the way to what is there already there are folders.
        rw [if_pos hway]
        refine (ht.folder_before ?_ (prefix_of_prefix_dropLast hway) hl).symm
        rw [hsame.1]
        rfl
      · rw [if_neg hway]

/-- A failure leaves the output directory as it was, if nothing had changed before. -/
theorem Delivered.untouched (h : Delivered t out files r) (ht : t.Sound) (hfails : r.1 ≠ .ok ())
    (hnot : ∀ before f after, Ready t out files → t.get? out ≠ none → files = before ++ f :: after →
      (∀ g ∈ before, t.Fits out g.1) → ¬t.Fits out f.1 → ¬ChangesBefore t out before f) :
    Untouched t r.2 out := by
  intro way
  cases h with
  | whole => exact absurd rfl hfails
  | moved => exact absurd rfl hfails
  | refused _ hview => rw [hview, get?_makeFolders_below]
  | stopped before f after hready hthere hsplit hbefore hf hview =>
    have hunchanged := hnot before f after hready hthere hsplit hbefore hf
    simp only [ChangesBefore, not_or, not_exists, not_and, not_not] at hunchanged
    by_cases hway : out ++ way <+: out ++ f.1.dropLast ∧ t.Open (out ++ way)
    · rw [(hview _).made hway.1 hway.2]
      refine ((hway.2 _ (List.prefix_refl _)).resolve_right fun hmissing => ?_).symm
      exact hunchanged.2 _ hway.1 hway.2 hmissing.1
    · rw [(hview _).kept hway, placeAll_of_already ht hbefore hunchanged.1]

/-- **Output that is left half done is a failure, and something has changed.** -/
theorem HalfDone.changed (h : HalfDone t out units) (ht : t.Sound) :
    (∃ failure, (deliver t out (filesOf units)).1 = .error failure) ∧
      ¬Untouched t (deliver t out (filesOf units)).2 out := by
  obtain ⟨_, f, _, hsplit, hbefore, hf, hchanges⟩ := h.stops
  obtain ⟨hfails, hview⟩ := deliver_of_first_not_fit ht (nodup_ways h.inside h.different) h.there
    (h.ready ht) hsplit hbefore hf
  refine ⟨hfails, fun hsame => ?_⟩
  have hapart := (h.ready ht).stageable.2
  rw [hsplit] at hapart
  rcases hchanges with ⟨g, hg, hdiffers⟩ | ⟨l, hway, hopen, hmissing⟩
  · -- A file that was moved is there now.
    have hgf : Apart g f := (List.pairwise_append.mp hapart).2.2 g hg f List.mem_cons_self
    have hkept := (hview (out ++ g.1)).kept fun ⟨hway, _⟩ => hgf.1 <|
      ((List.prefix_append_right_inj out).mp hway).trans <| List.dropLast_prefix _
    rw [hsame, placeAll_of_mem (List.pairwise_append.mp hapart).1 hg] at hkept
    exact hdiffers hkept
  · -- A folder that was missing is there now. It is below the output directory, since that was
    -- there.
    have hbelow : out <+: l := by
      rcases List.prefix_or_prefix_of_prefix hway (List.prefix_append out _) with hle | hle
      · by_cases heq : l = out
        · rw [heq]
        · have hfolder := ht.folder_before (Option.isSome_iff_ne_none.mpr h.there) hle heq
          rw [hmissing] at hfolder
          cases hfolder
      · exact hle
    obtain ⟨_, rfl⟩ := hbelow
    have hmade := (hview _).made hway hopen
    rw [hsame, hmissing] at hmade
    cases hmade

theorem Delivered.tidy (h : Delivered t out files r) (hl : r.2.get? l ≠ t.get? l) :
    l <+: out ∨ ∃ f ∈ files, l <+: out ++ f.1 := by
  by_contra! hnot
  obtain ⟨hout, hfiles⟩ := hnot
  refine hl ?_
  have hparent : ¬l <+: out.dropLast := fun hle => hout (hle.trans <| List.dropLast_prefix _)
  cases h with
  | refused _ hview => rw [hview, FileTree.get?_makeFolders_of_not fun hway => hparent hway.1]
  | whole _ _ hview => rw [hview, placeAll_elsewhere hfiles, if_neg hout]
  | moved _ _ hview => rw [hview, placeAll_elsewhere hfiles]
  | stopped _ f _ _ _ hsplit _ _ hview =>
    have hf : ¬l <+: out ++ f.1.dropLast := fun hway =>
      hfiles f (by simp [hsplit]) (prefix_of_prefix_dropLast hway)
    rw [(hview l).kept fun hway => hf hway.1, placeAll_elsewhere fun g hg =>
      hfiles g (by simp [hsplit, hg])]

theorem Delivered.unstaged (h : Delivered t out files r) (ht : t.Sound)
    (hl : stageFolder t out files <+: l) : r.2.get? l = none := by
  by_contra hne
  have hbefore := get?_stageFolder ht hl
  rcases h.tidy (by rwa [hbefore]) with hout | ⟨f, hf, hway⟩
  · exact stageFolder_not_prefix_out (hl.trans hout)
  · exact stageFolder_not_onWay t out files f hf (hl.trans hway)

/-- **Writing units is all or nothing exactly if the output is not left half done.** In any case the
staging folder is gone, and all that has changed is on the way to the output directory or to a
file. -/
theorem writeUnits_allOrNothing_iff (t : FileTree) (ht : t.Sound) (out : List String)
    (units : List (String × String)) :
    (AllOrNothing t out units ↔ ¬HalfDone t out units) ∧
      (∀ l, stageFolder t out (filesOf units) <+: l → (writeUnits t out units).2.get? l = none) ∧
      ∀ l, (writeUnits t out units).2.get? l ≠ t.get? l →
        l <+: out ∨ ∃ f ∈ filesOf units, l <+: out ++ f.1 := by
  by_cases hpaths : (∀ u ∈ units, StaysInside u.1) ∧ (units.map fun u => Path.normalize u.1).Nodup
  · obtain ⟨htree, hresult⟩ := writeUnits_of_fine hpaths.1 hpaths.2
    have hrun : Delivered t out (filesOf units) (deliver t out (filesOf units)) :=
      delivered_deliver ht (nodup_ways hpaths.1 hpaths.2)
    rw [htree]
    refine ⟨⟨fun hall hhalf => ?_, fun hnot => ⟨fun paths hok => ?_, fun problem hfails => ?_⟩⟩,
      fun l hl => hrun.unstaged ht hl, fun l hl => hrun.tidy hl⟩
    · obtain ⟨⟨_, hfails⟩, hchanged⟩ := hhalf.changed ht
      cases hwritten : (writeUnits t out units).1 with
      | ok paths =>
        rw [hresult.mp ⟨paths, hwritten⟩] at hfails
        cases hfails
      | error problem => exact hchanged (htree ▸ hall.nothing problem hwritten)
    · rw [htree]
      exact hrun.complete ht (hresult.mp ⟨paths, hok⟩)
    · rw [htree]
      refine hrun.untouched ht
        (fun hok => ?_) fun before f after hready hthere hsplit hbefore hf hchanges => ?_
      · obtain ⟨paths, hwritten⟩ := hresult.mpr hok
        rw [hwritten] at hfails
        cases hfails
      · exact hnot ⟨hpaths.1, hpaths.2, hready.fine, hready.stageable, hthere,
          before, f, after, hsplit, hbefore, hf, hchanges⟩
  · obtain ⟨⟨problem, hfails⟩, htree⟩ := writeUnits_of_not_fine t out hpaths
    rw [htree]
    refine ⟨iff_of_true ⟨fun paths hok => ?_, fun _ _ _ => by rw [htree]⟩ fun hhalf => ?_,
      fun l hl => ?_, fun l hl => absurd rfl hl⟩
    · rw [hfails] at hok
      cases hok
    · exact hpaths ⟨hhalf.inside, hhalf.different⟩
    · exact get?_stageFolder ht hl

/-- An output directory in which a folder has the name of a file. -/
def occupiedTree : FileTree where
  entries := [(["out"], .folder), (["out", "b.txt"], .folder), (["out", "b.txt", "x"], .file [])]

theorem writeUnits_allOrNothing_iff_occupiedTree : occupiedTree.Sound ∧
      (AllOrNothing occupiedTree ["out"] [("sub/a.txt", "1"), ("c.txt", "2")] ↔
        ¬HalfDone occupiedTree ["out"] [("sub/a.txt", "1"), ("c.txt", "2")]) :=
  have hsound : occupiedTree.Sound := FileTree.sound_of_keys (by decide)
  ⟨hsound, (writeUnits_allOrNothing_iff occupiedTree hsound _ _).1⟩

/-- The first file stays though the second one does not fit. -/
theorem not_allOrNothing_occupiedTree :
    occupiedTree.Sound ∧ ¬AllOrNothing occupiedTree ["out"] [("a.txt", "1"), ("b.txt", "2")] := by
  refine ⟨FileTree.sound_of_keys (by decide), fun h => ?_⟩
  have hfails : (writeUnits occupiedTree ["out"] [("a.txt", "1"), ("b.txt", "2")]).1 =
      .error (.failed { problem := .isFolder, location := ["out", "b.txt"] }) := by decide +kernel
  have hsame := h.nothing _ hfails ["a.txt"]
  have hthere : (writeUnits occupiedTree ["out"] [("a.txt", "1"), ("b.txt", "2")]).2.get?
      ["out", "a.txt"] = some (.file (encode "1")) := by decide +kernel
  have hmissing : occupiedTree.get? ["out", "a.txt"] = none := by decide
  rw [List.singleton_append, hthere, hmissing] at hsame
  cases hsame

end AllOrNothing

end TestMigration.Files
