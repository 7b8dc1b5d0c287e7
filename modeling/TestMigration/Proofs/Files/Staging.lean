import TestMigration.Proofs.Files.Placing
import Mathlib.Data.List.Perm.Subperm
/-!
# Staging

Files are staged in a folder beside the output directory whose name nobody has (`stageName_fresh`):
there are more names to choose from than things that could have one. Staging changes nothing outside
of this folder, whether it succeeds or not (`get?_stageFiles_of_off`). It succeeds exactly if each
file fits and can be encoded and the ways are apart (`stageFiles_ok_iff`), and then the files are
there (`get?_stageFiles`).
-/

namespace TestMigration.Files

open Text

/-! ### The name of the folder -/

theorem length_stageCandidate (n : Nat) : (stageCandidate n).length = 24 + n := by
  have hstart : stageStart.length = 16 := by decide
  rw [stageCandidate, String.length_append, String.length_ofList, List.length_replicate]
  omega

theorem stageCandidate_injective : Function.Injective stageCandidate := by
  intro m n h
  have hlength := congrArg String.length h
  rw [length_stageCandidate, length_stageCandidate] at hlength
  omega

/-- The names that are taken: in the tree, by the output directory, and by the files. -/
def takenNames (t : FileTree) (out : List String) (files : List (List String × String)) :
    List String :=
  t.entries.keys.map (·.getLastD "") ++ out.getLast?.toList ++ files.filterMap (·.1.head?)

/-- **The name of the staging folder is not taken.** -/
theorem stageName_fresh (t : FileTree) (out : List String) (files : List (List String × String)) :
    t.get? (out.dropLast ++ [stageName t out files]) = none ∧
      out.getLast? ≠ some (stageName t out files) ∧
      ∀ f ∈ files, f.1.head? ≠ some (stageName t out files) := by
  set taken : String → Bool := fun name =>
    (t.get? (out.dropLast ++ [name])).isSome || out.getLast? == some name
      || files.any fun f => f.1.head? == some name with htaken
  set count := t.entries.length + files.length + 1 with hcount
  set candidates := (List.range (count + 1)).map stageCandidate with hcandidates
  have hname : stageName t out files = (candidates.find? (!taken ·)).getD (stageCandidate count) :=
    rfl
  -- A name that is taken is the name of something.
  have hmem : ∀ name, taken name = true → name ∈ takenNames t out files := by
    intro name h
    simp only [htaken, Bool.or_eq_true, beq_iff_eq, List.any_eq_true] at h
    simp only [takenNames, List.mem_append, List.mem_map, Option.mem_toList, List.mem_filterMap]
    rcases h with (h | h) | ⟨f, hf, h⟩
    · obtain ⟨e, he⟩ := Option.isSome_iff_exists.mp h
      rw [FileTree.get?_of_ne_nil (by simp)] at he
      exact .inl (.inl ⟨_, Table.mem_keys_of_get? he, by simp⟩)
    · exact .inl (.inr h)
    · exact .inr ⟨f, hf, h⟩
  -- So not all candidates are taken: there are more of them than names.
  have hfree : ∃ name ∈ candidates, taken name = false := by
    by_contra! hall
    have hsubset : candidates ⊆ takenNames t out files := by
      intro name hname
      exact hmem name (by simpa using hall name hname)
    have hnodup : candidates.Nodup := List.nodup_range.map stageCandidate_injective
    have hlength := (hnodup.subperm hsubset).length_le
    have hkeys : t.entries.keys.length = t.entries.length := List.length_map _
    have hfiles := List.length_filterMap_le (fun f : List String × String => f.1.head?) files
    have hout : out.getLast?.toList.length ≤ 1 := by cases out.getLast? <;> simp
    simp only [hcandidates, takenNames, List.length_map, List.length_range,
      List.length_append] at hlength
    omega
  obtain ⟨name, hname', hnot⟩ := hfree
  obtain ⟨found, hfound⟩ : ∃ found, candidates.find? (!taken ·) = some found :=
    Option.isSome_iff_exists.mp (List.find?_isSome.mpr ⟨name, hname', by simpa using hnot⟩)
  have hfalse := List.find?_some hfound
  rw [hname, hfound]
  simp only [htaken, Bool.not_eq_true', Bool.or_eq_false_iff, Option.isSome_eq_false_iff,
    Option.isNone_iff_eq_none, beq_eq_false_iff_ne, List.any_eq_false, beq_iff_eq] at hfalse
  exact ⟨hfalse.1.1, hfalse.1.2, hfalse.2⟩

/-- The folder beside the output directory in which files are staged. -/
def stageFolder (t : FileTree) (out : List String) (files : List (List String × String)) :
    List String :=
  out.dropLast ++ [stageName (t.makeFolders [] out.dropLast).2 out files]

theorem stageFolder_not_out {t : FileTree} {out : List String} {files : List (List String × String)}
    (hout : out ≠ []) (way : List String) : ¬stageFolder t out files <+: out ++ way := by
  obtain ⟨-, hname, -⟩ := stageName_fresh (t.makeFolders [] out.dropLast).2 out files
  intro h
  obtain ⟨last, hlast⟩ : ∃ last, out = out.dropLast ++ [last] :=
    ⟨out.getLast hout, (List.dropLast_append_getLast hout).symm⟩
  rw [stageFolder] at h
  nth_rewrite 4 [hlast] at h
  rw [List.append_assoc, List.prefix_append_right_inj, List.singleton_append,
    List.cons_prefix_cons] at h
  rw [hlast, List.getLast?_concat, ← hlast] at hname
  exact hname (by rw [h.1])

theorem stageFolder_not_onWay (t : FileTree) (out : List String)
    (files : List (List String × String)) :
    ∀ f ∈ files, ¬stageFolder t out files <+: out ++ f.1 := by
  obtain ⟨-, -, hfiles⟩ := stageName_fresh (t.makeFolders [] out.dropLast).2 out files
  intro f hf
  by_cases hout : out = []
  · subst hout
    rintro ⟨_, hrest⟩
    refine hfiles f hf ?_
    rw [List.nil_append] at hrest
    rw [← hrest]
    rfl
  · exact stageFolder_not_out hout f.1

/-! ### The files in the folder -/

section Stage

variable {stage l : List String} {t : FileTree} {files : List (List String × String)}

/-- There are folders at a location and on the way to it. -/
def FileTree.Rooted (t : FileTree) (base : List String) : Prop :=
  ∀ l, l <+: base → t.get? l = some .folder

section Rooted

variable {base way : List String} {v : View} {file : List String × String} {t' : FileTree}

/-- Making folders below a folder changes nothing that is not below it. -/
theorem FileTree.Rooted.get?_makeFolders (h : t.Rooted base) (hl : ¬base <+: l) :
    (t.makeFolders [] (base ++ way)).2.get? l = t.get? l := by
  by_cases hway : l <+: base ++ way ∧ t.Open l
  · have hbefore :=
      (List.prefix_or_prefix_of_prefix hway.1 (List.prefix_append base way)).resolve_right hl
    rw [get?_makeFolders_of_open hway.1 hway.2, h l hbefore]
  · exact get?_makeFolders_of_not hway

/-- A file does not fit where there is a folder. -/
theorem FileTree.Rooted.ne_nil (h : t.Rooted base) (hfits : t.Fits base way) : way ≠ [] := by
  rintro rfl
  exact hfits.free (by rw [List.append_nil]; exact h base (List.prefix_refl _))

theorem FileTree.Rooted.step (h : t.Rooted base) (hfits : t.Fits base file.1)
    (hview : ∀ l, t'.get? l = place base t.get? file l) : t'.Rooted base := by
  intro l hl
  rw [hview]
  exact place_onWay (h.ne_nil hfits) (hl.trans (List.prefix_append _ _))

end Rooted

variable {f : List String × String}

/-- Staging stops at a file that does not fit, with its folders made as far as possible. -/
theorem stageFiles_of_not_fits (files : List (List String × String)) (hstage : t.Rooted stage)
    (hfits : ¬t.Fits stage f.1) : ∃ failure, stageFiles stage t (f :: files) =
      (.error failure, (t.makeFolders [] (stage ++ f.1.dropLast)).2) := by
  obtain ⟨way, text⟩ := f
  rw [FileTree.fits_iff (.inr (hstage stage (List.prefix_refl _))) (encode text)] at hfits
  rw [stageFiles]
  cases hmade : t.makeFolders [] (stage ++ way.dropLast) with
  | mk result t' =>
    cases result with
    | error failure => exact ⟨failure, rfl⟩
    | ok =>
      cases hwrite : t'.write (stage ++ way) (encode text) with
      | error failure => exact ⟨failure, by simp only [hwrite]⟩
      | ok t'' =>
        rw [hmade] at hfits
        exact absurd ⟨rfl, t'', hwrite⟩ hfits

/-- A file that fits is put there; then staging goes on, unless the file cannot be encoded. -/
theorem stageFiles_of_fits (files : List (List String × String)) (hstage : t.Rooted stage)
    (hfits : t.Fits stage f.1) : ∃ t', (∀ l, t'.get? l = place stage t.get? f l) ∧
      (encodingFault? f.2 = none → stageFiles stage t (f :: files) = stageFiles stage t' files) ∧
      (encodingFault? f.2 ≠ none → ∃ failure, stageFiles stage t (f :: files) =
        (.error failure, t')) := by
  obtain ⟨way, text⟩ := f
  have hbase := hstage stage (List.prefix_refl _)
  obtain ⟨hmade, t', hwrite⟩ := (FileTree.fits_iff (.inr hbase) (encode text)).mp hfits
  refine ⟨t', fun l => FileTree.get?_of_write (hstage.ne_nil hfits) hfits.opens hwrite, ?_⟩
  rw [stageFiles]
  cases hfolders : t.makeFolders [] (stage ++ way.dropLast) with
  | mk result =>
    rw [hfolders] at hmade hwrite
    obtain rfl : result = .ok () := hmade
    simp only at hwrite ⊢
    rw [hwrite]
    cases hfault : encodingFault? text with
    | none => exact ⟨fun _ => rfl, fun h => absurd rfl h⟩
    | some => exact ⟨fun h => by simp at h, fun _ => ⟨_, rfl⟩⟩

/-- **Staging succeeds exactly if each file fits and can be encoded, and the ways are apart.** -/
theorem stageFiles_ok_iff (hstage : t.Rooted stage) (hways : (files.map Prod.fst).Nodup) :
    (stageFiles stage t files).1 = .ok () ↔
      (∀ f ∈ files, t.Fits stage f.1 ∧ encodingFault? f.2 = none) ∧ files.Pairwise Apart := by
  induction files generalizing t with
  | nil => simp [stageFiles]
  | cons f rest ih =>
    obtain ⟨hnew, hrest⟩ := List.nodup_cons.mp hways
    rw [List.forall_mem_cons, List.pairwise_cons]
    by_cases hfits : t.Fits stage f.1
    · obtain ⟨_, hview, hgoes, hstops⟩ := stageFiles_of_fits rest hstage hfits
      by_cases hfault : encodingFault? f.2 = none
      · rw [hgoes hfault, ih (hstage.step hfits hview) hrest]
        constructor
        · rintro ⟨hall, hapart⟩
          have hf : ∀ g ∈ rest, Apart f g := by
            intro g hg
            refine (hall g hg).1.apart (hstage.ne_nil hfits) ?_ hview
            intro heq
            exact hnew (heq ▸ List.mem_map_of_mem hg)
          refine ⟨⟨⟨hfits, hfault⟩, fun g hg => ⟨?_, (hall g hg).2⟩⟩, hf, hapart⟩
          exact (hfits.step (hf g hg) fun l _ => hview l).mp (hall g hg).1
        · rintro ⟨⟨-, hall⟩, hf, hapart⟩
          refine ⟨fun g hg => ⟨?_, (hall g hg).2⟩, hapart⟩
          exact (hfits.step (hf g hg) fun l _ => hview l).mpr (hall g hg).1
      · obtain ⟨failure, hrun⟩ := hstops hfault
        rw [hrun]
        exact iff_of_false (by simp) fun h => hfault h.1.1.2
    · obtain ⟨failure, hrun⟩ := stageFiles_of_not_fits rest hstage hfits
      rw [hrun]
      exact iff_of_false (by simp) fun h => hfits h.1.1.1

theorem get?_stageFiles_of_off (hstage : t.Rooted stage) (hl : ¬stage <+: l) :
    (stageFiles stage t files).2.get? l = t.get? l := by
  induction files generalizing t with
  | nil => rfl
  | cons f rest ih =>
    by_cases hfits : t.Fits stage f.1
    · obtain ⟨t', hview, hgoes, hstops⟩ := stageFiles_of_fits rest hstage hfits
      have hsame : t'.get? l = t.get? l := (hview l).trans (place_of_off (hstage l) hl)
      by_cases hfault : encodingFault? f.2 = none
      · rw [hgoes hfault, ih (hstage.step hfits hview), hsame]
      · obtain ⟨failure, hrun⟩ := hstops hfault
        rw [hrun, hsame]
    · obtain ⟨failure, hrun⟩ := stageFiles_of_not_fits rest hstage hfits
      rw [hrun]
      exact hstage.get?_makeFolders hl

theorem get?_stageFiles (hstage : t.Rooted stage) (hok : (stageFiles stage t files).1 = .ok ())
    (l : List String) : (stageFiles stage t files).2.get? l = placeAll stage t.get? files l := by
  induction files generalizing t with
  | nil => rfl
  | cons f rest ih =>
    by_cases hfits : t.Fits stage f.1
    · obtain ⟨_, hview, hgoes, hstops⟩ := stageFiles_of_fits rest hstage hfits
      by_cases hfault : encodingFault? f.2 = none
      · rw [hgoes hfault] at hok ⊢
        rw [ih (hstage.step hfits hview) hok]
        exact placeAll_congr (hview l)
      · obtain ⟨failure, hrun⟩ := hstops hfault
        rw [hrun] at hok
        cases hok
    · obtain ⟨failure, hrun⟩ := stageFiles_of_not_fits rest hstage hfits
      rw [hrun] at hok
      cases hok

end Stage

end TestMigration.Files
