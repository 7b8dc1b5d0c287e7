import TestMigration.Text.Path
import Mathlib.Data.List.Basic
/-!
# Paths in normal form

A path in normal form is its components with slashes between them, and cut at its slashes it gives
them back (`split_join`). So a relative path in normal form is known by the components that lead
somewhere (`normalize_eq_of_steps_eq`): two different ones lead to different places.
-/

namespace TestMigration.Text

/-! ### Cutting and joining -/

theorem toList_join (sep : String) (texts : List String) :
    (join sep texts).toList = sep.toList.intercalate (texts.map String.toList) := by
  induction texts with
  | nil => rfl
  | cons s rest ih =>
    cases rest with
    | nil => simp [join]
    | cons t rest =>
      rw [join, String.toList_append, ih]
      · simp [List.intercalate]
      · simp

/-- Cutting at a character: what has been read stands before the first piece of the rest. -/
theorem splitAtAll_go_singleton (c : Char) (piece text : List Char) :
    splitAtAll.go [c] piece 0 text = (text.splitOn c).modifyHead (piece.reverse ++ ·) := by
  induction text generalizing piece with
  | nil => simp [splitAtAll.go]
  | cons d rest ih =>
    have hcut : splitAtAll.go [c] [] 0 rest = rest.splitOn c := by
      rw [ih]
      cases rest.splitOn c <;> simp
    rw [splitAtAll.go, List.splitOn_cons_eq_if_modifyHead]
    by_cases hd : d = c
    · subst hd
      simp [hcut]
    · have hd' : ¬c = d := Ne.symm hd
      simp [hd, hd', ih, Function.comp_def]

theorem splitAtAll_singleton (c : Char) (text : List Char) :
    splitAtAll [c] text = text.splitOn c := by
  rw [splitAtAll, splitAtAll_go_singleton]
  cases text.splitOn c <;> simp

theorem not_mem_of_mem_splitOn {c : Char} {text piece : List Char} (h : piece ∈ text.splitOn c) :
    c ∉ piece := by
  induction text generalizing piece with
  | nil => simp_all
  | cons d rest ih =>
    rw [List.splitOn_cons_eq_if_modifyHead] at h
    split at h
    · rcases List.mem_cons.mp h with rfl | h
      · simp
      · exact ih h
    · rename_i hd
      obtain ⟨first, _, hrest⟩ := List.exists_cons_of_ne_nil (List.splitOn_ne_nil (a := c) rest)
      rw [hrest] at h
      rcases List.mem_cons.mp h with rfl | h
      · have hfirst : c ∉ first := ih (by rw [hrest]; exact List.mem_cons_self)
        intro hc
        rcases List.mem_cons.mp hc with rfl | hc
        · simp at hd
        · exact hfirst hc
      · exact ih (by rw [hrest]; exact List.mem_cons_of_mem _ h)

namespace Path

variable {path comp : String} {comps : List String}

theorem split_eq (path : String) : split path = (path.toList.splitOn '/').map String.ofList := by
  rw [← splitAtAll_singleton]
  rfl

theorem slash_not_mem_of_mem_split (h : comp ∈ split path) : '/' ∉ comp.toList := by
  rw [split_eq] at h
  obtain ⟨_, hpiece, rfl⟩ := List.mem_map.mp h
  rw [String.toList_ofList]
  exact not_mem_of_mem_splitOn hpiece

/-- Components joined by slashes are found between the slashes. -/
theorem split_join (hne : comps ≠ [])
    (h : ∀ c ∈ comps, '/' ∉ c.toList) : split (join "/" comps) = comps := by
  have hslash : "/".toList = ['/'] := rfl
  rw [split_eq, toList_join, hslash, List.splitOn_intercalate '/' (by simpa using h)
    (by simpa using hne)]
  simp [Function.comp_def]

theorem split_of_no_slash (h : '/' ∉ comp.toList) : split comp = [comp] := by
  simpa [join] using split_join (List.cons_ne_nil comp []) (by simpa using h)

/-! ### Normal forms -/

/-- A component that leads somewhere, and has no slash in it. -/
def IsStep (comp : String) : Prop := comp ≠ "" ∧ comp ≠ "." ∧ '/' ∉ comp.toList

theorem isStep_of_mem_resolve {absolute : Bool} {done : List String}
    (hcomps : ∀ c ∈ comps, '/' ∉ c.toList) (hdone : ∀ c ∈ done, IsStep c) :
    ∀ c ∈ resolve absolute done comps, IsStep c := by
  have hpushed : ∀ {comp : String} {done rest : List String}, (∀ c ∈ comp :: rest, '/' ∉ c.toList) →
      ¬(comp == "" || comp == ".") = true → (∀ c ∈ done, IsStep c) →
      ∀ c ∈ comp :: done, IsStep c := by
    intro comp done rest hslash hleads hdone c hc
    rw [Bool.or_eq_true, not_or, beq_iff_eq, beq_iff_eq] at hleads
    rcases List.mem_cons.mp hc with rfl | hc
    · exact ⟨hleads.1, hleads.2, hslash _ List.mem_cons_self⟩
    · exact hdone c hc
  have htail : ∀ {comp : String} {rest : List String}, (∀ c ∈ comp :: rest, '/' ∉ c.toList) →
      ∀ c ∈ rest, '/' ∉ c.toList := fun h c hc => h c (List.mem_cons_of_mem _ hc)
  fun_induction resolve absolute done comps with
  | case1 => exact hdone
  | case2 _ _ _ _ ih => exact ih (htail hcomps) hdone
  | case3 _ _ _ hleads _ ih => exact ih (htail hcomps) (hpushed hcomps hleads hdone)
  | case4 _ _ _ _ _ ih => exact ih (htail hcomps) (by simp)
  | case5 _ _ hleads _ _ ih => exact ih (htail hcomps) (hpushed hcomps hleads (by simp))
  | case6 _ _ hleads _ _ _ _ ih => exact ih (htail hcomps) (hpushed hcomps hleads hdone)
  | case7 _ _ _ _ _ _ _ ih =>
    exact ih (htail hcomps) fun c hc => hdone c (List.mem_cons_of_mem _ hc)

/-- The components of a relative path in normal form. -/
def components (path : String) : List String := (resolve false [] (split path)).reverse

theorem isStep_of_mem_components (h : comp ∈ components path) : IsStep comp :=
  isStep_of_mem_resolve (fun _ => slash_not_mem_of_mem_split) (by simp) comp (List.mem_reverse.mp h)

theorem join_eq_empty_iff (h : ∀ c ∈ comps, IsStep c) : join "/" comps = "" ↔ comps = [] := by
  constructor
  · intro hjoin
    cases comps with
    | nil => rfl
    | cons c rest =>
      have hc := (h c List.mem_cons_self).1
      cases rest with
      | nil => exact absurd hjoin hc
      | cons d rest => simp [join] at hjoin
  · rintro rfl
    rfl

/-- The relative path in normal form that has some components. -/
def pathOf (comps : List String) : String := if comps = [] then "." else join "/" comps

theorem split_pathOf (h : ∀ c ∈ comps, IsStep c) :
    split (pathOf comps) = if comps = [] then ["."] else comps := by
  unfold pathOf
  split
  · decide
  · exact split_join ‹_› fun c hc => (h c hc).2.2

theorem normalize_of_relative (h : leadingSlashes path = 0) :
    normalize path = pathOf (components path) := by
  have hempty := join_eq_empty_iff fun c (hc : c ∈ components path) => isStep_of_mem_components hc
  simp only [normalize, h, List.replicate_zero, String.ofList_nil, String.empty_append,
    String.isEmpty_iff]
  exact if_congr hempty rfl rfl

theorem split_normalize (h : leadingSlashes path = 0) :
    split (normalize path) = if components path = [] then ["."] else components path := by
  rw [normalize_of_relative h, split_pathOf fun _ => isStep_of_mem_components]

theorem steps_normalize (h : leadingSlashes path = 0) :
    steps (normalize path) = components path := by
  rw [steps, split_normalize h]
  split
  · simp_all
  · rw [List.filter_eq_self]
    intro c hc
    simp [(isStep_of_mem_components hc).1, (isStep_of_mem_components hc).2.1]

/-- **Relative paths in normal form are known by the components that lead somewhere.** -/
theorem normalize_eq_of_steps_eq {other : String} (h : leadingSlashes path = 0)
    (h' : leadingSlashes other = 0) (hsteps : steps (normalize path) = steps (normalize other)) :
    normalize path = normalize other := by
  rw [steps_normalize h, steps_normalize h'] at hsteps
  rw [normalize_of_relative h, normalize_of_relative h', hsteps]

theorem isAbsolute_iff : isAbsolute path = true ↔ ['/'] <+: path.toList :=
  List.isPrefixOf_iff_prefix

theorem isAbsolute_normalize (h : leadingSlashes path ≠ 0) :
    isAbsolute (normalize path) = true := by
  obtain ⟨n, hn⟩ := Nat.exists_eq_succ_of_ne_zero h
  simp only [normalize, hn]
  rw [if_neg]
  · simp [isAbsolute, startsWith, List.replicate_succ]
  · simp [List.replicate_succ]

/-! ### A name behind a directory -/

/-- A component that leads into the directory before it. -/
def IsName (name : String) : Prop := IsStep name ∧ name ≠ ".."

theorem resolve_append (absolute : Bool) (done comps more : List String) :
    resolve absolute done (comps ++ more) =
      resolve absolute (resolve absolute done comps) more := by
  induction comps generalizing done with
  | nil => rfl
  | cons _ _ ih =>
    rw [List.cons_append]
    cases done <;> simp only [resolve] <;> split_ifs <;> exact ih _

theorem split_append_slash (path more : String) :
    split (path ++ "/" ++ more) = split path ++ split more := by
  have hslash : "/".toList = ['/'] := rfl
  rw [split_eq, split_eq, split_eq, String.toList_append, String.toList_append, hslash,
    List.append_assoc, ← List.map_append]
  exact congrArg _ (List.splitOnP_append_cons _ _ (by simp))

theorem mem_split_of_startsWith {start : String} (hslash : '/' ∉ start.toList)
    (h : startsWith (start ++ "/") path = true) : start ∈ split path := by
  obtain ⟨rest, hrest⟩ := List.isPrefixOf_iff_prefix.mp h
  obtain rfl : path = start ++ "/" ++ .ofList rest := by
    rw [← String.toList_inj, ← hrest]
    simp
  simp [split_append_slash, split_of_no_slash hslash]

theorem isAbsolute_pathOf (h : ∀ c ∈ comps, IsStep c) : isAbsolute (pathOf comps) = false := by
  refine Bool.eq_false_iff.mpr fun hstart => ?_
  have hempty : "" ∈ split (pathOf comps) := mem_split_of_startsWith (by decide) hstart
  rw [split_pathOf h] at hempty
  split at hempty
  · simp at hempty
  · exact (h _ hempty).1 rfl

section Append

variable {dir name : String}

theorem IsName.isAbsolute (h : IsName name) : isAbsolute name = false := by
  rw [← Bool.not_eq_true, isAbsolute_iff]
  exact fun hstart => h.1.2.2 (hstart.subset (List.mem_singleton.mpr rfl))

/-- The directory may be empty or end with a slash, which gives an empty component. -/
theorem resolve_split_append (absolute : Bool) (dir : String) (h : isAbsolute path = false) :
    resolve absolute [] (split (append dir path)) =
      resolve absolute (resolve absolute [] (split dir)) (split path) := by
  have hskip : ∀ done, resolve absolute done [""] = done := fun done => by simp [resolve]
  rw [append, if_neg (by simp [h])]
  by_cases hempty : dir = ""
  · subst hempty
    rw [show split "" = [""] from rfl, hskip]
    simp
  · cases hend : endsWith "/" dir with
    | true =>
      rw [endsWith, List.isSuffixOf_iff_suffix] at hend
      obtain ⟨start, hstart⟩ := hend
      obtain rfl : dir = .ofList start ++ "/" := by
        rw [← String.toList_inj, String.toList_append, String.toList_ofList, hstart]
      have hdir := split_append_slash (.ofList start) ""
      rw [String.append_empty] at hdir
      rw [hdir, resolve_append _ _ _ (split ""), show split "" = [""] from rfl, hskip]
      simp [split_append_slash, resolve_append]
    | false => simp [hempty, split_append_slash, resolve_append]

theorem resolve_names {absolute : Bool} {done : List String} (h : ∀ c ∈ comps, IsName c) :
    resolve absolute done comps = comps.reverse ++ done := by
  induction comps generalizing done with
  | nil => rfl
  | cons _ _ ih =>
    obtain ⟨⟨⟨hempty, hdot, -⟩, hup⟩, hrest⟩ := List.forall_mem_cons.mp h
    rw [resolve.eq_def]
    simp [hempty, hdot, hup, ih hrest]

theorem resolve_pathOf (absolute : Bool) (done : List String) (h : ∀ c ∈ comps, IsStep c) :
    resolve absolute done (split (pathOf comps)) = resolve absolute done comps := by
  rw [split_pathOf h]
  split <;> simp_all [resolve]

theorem components_pathOf (h : ∀ c ∈ comps, IsName c) : components (pathOf comps) = comps := by
  rw [components, resolve_pathOf _ _ fun c hc => (h c hc).1, resolve_names h]
  simp

theorem components_append (dir : String) (h : IsName name) :
    components (append dir name) = components dir ++ [name] := by
  rw [components, components, resolve_split_append _ _ h.isAbsolute, split_of_no_slash h.1.2.2,
    resolve_names (by simpa using h)]
  simp

/-- **Two files are at one place exactly if their directories are and they have one name.** -/
theorem normalize_append_eq_iff {dir' name' : String} (h : IsName name) (h' : IsName name')
    (hrelative : leadingSlashes (append dir name) = 0)
    (hrelative' : leadingSlashes (append dir' name') = 0) :
    normalize (append dir name) = normalize (append dir' name') ↔
      components dir = components dir' ∧ name = name' := by
  have hsteps : normalize (append dir name) = normalize (append dir' name') ↔
      components (append dir name) = components (append dir' name') := by
    constructor
    · intro heq
      rw [← steps_normalize hrelative, heq, steps_normalize hrelative']
    · intro heq
      rw [normalize_of_relative hrelative, normalize_of_relative hrelative', heq]
  rw [hsteps, components_append dir h, components_append dir' h']
  constructor
  · intro hcomps
    obtain ⟨hdir, hname⟩ := List.append_inj' hcomps rfl
    exact ⟨hdir, List.singleton_inj.mp hname⟩
  · rintro ⟨hdir, rfl⟩
    rw [hdir]

end Append

end Path

end TestMigration.Text
