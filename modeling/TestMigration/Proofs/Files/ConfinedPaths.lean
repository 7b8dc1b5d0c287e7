import TestMigration.Files.Output
import TestMigration.Proofs.Text.Paths
/-!
# Output paths stay below the output directory

Walking along a path from the output directory, one component at a time, either ends at a place
below it or steps above it at some point (`walk`). A normal form does not follow the walk: it keeps
two dots that have nothing to remove. But once kept they are never removed, so they are still at the
front of the result, which is where the check looks.
-/

namespace TestMigration.Text.Path

/-- The place, held backwards, that a component leads to. There is none above the start. -/
def walkStep (place : List String) (comp : String) : Option (List String) :=
  if comp = ".." then place.tail? else some (comp :: place)

/-- Where a path leads, step by step. -/
def walk (path : String) : Option (List String) := (steps path).foldlM walkStep []

variable {path : String} {done comps : List String}

theorem leadingSlashes_eq_zero_iff : leadingSlashes path = 0 ↔ isAbsolute path = false := by
  rw [← Bool.not_eq_true, isAbsolute_iff, leadingSlashes]
  cases path.toList with
  | nil => simp
  | cons c => by_cases hc : c = '/' <;> simp [hc] <;> grind

/-- Two dots at the bottom stay there. -/
theorem getLast?_resolve (h : done.getLast? = some "..") :
    (resolve false done comps).getLast? = some ".." := by
  fun_induction resolve false done comps with
  | case1 => exact h
  | case2 _ _ _ _ ih => exact ih h
  | case3 _ _ _ _ _ ih | case6 _ _ _ _ _ _ _ ih => exact ih (by simp [List.getLast?_cons, h])
  | case4 | case5 => cases h
  | case7 _ _ _ _ _ before _ ih =>
    cases before with
    | nil => simp_all
    | cons => exact ih h

/-- A normal form is where the walk ends, and starts with two dots if the walk goes too far. -/
theorem resolve_eq_or (comps : List String) (hdone : ".." ∉ done) :
    let walked := (comps.filter fun c => c != "" && c != ".").foldlM walkStep done
    walked = some (resolve false done comps) ∧ ".." ∉ resolve false done comps ∨
      walked = none ∧ (resolve false done comps).getLast? = some ".." := by
  induction comps generalizing done with
  | nil => exact .inl ⟨rfl, hdone⟩
  | cons comp rest ih =>
    rw [resolve.eq_def]
    by_cases hskip : comp = "" ∨ comp = "."
    · have := ih hdone
      rcases hskip with rfl | rfl <;> simpa
    · obtain ⟨hempty, hdot⟩ := not_or.mp hskip
      by_cases hup : comp = ".."
      · cases done with
        | nil =>
          have hlast : (resolve false [".."] rest).getLast? = some ".." := getLast?_resolve rfl
          simp [hup, walkStep, hlast]
        | cons last =>
          have hlast : last ≠ ".." := fun h => hdone (h ▸ List.mem_cons_self)
          simpa [hup, hlast, walkStep] using ih fun h => hdone (List.mem_cons_of_mem _ h)
      · simpa [hempty, hdot, hup, walkStep] using ih
          (List.not_mem_cons_of_ne_of_not_mem (Ne.symm hup) hdone)

theorem walk_eq_or (path : String) :
    walk path = some (components path).reverse ∧ ".." ∉ components path ∨
      walk path = none ∧ (components path).head? = some ".." := by
  simpa [components, walk, steps] using resolve_eq_or (split path) List.not_mem_nil

theorem walk_of_inside (h : ".." ∉ components path) :
    walk path = some (components path).reverse := by
  obtain ⟨hwalk, -⟩ | ⟨-, hhead⟩ := walk_eq_or path
  · exact hwalk
  · exact absurd (List.mem_of_mem_head? hhead) h

end TestMigration.Text.Path

namespace TestMigration.Files

open Text Path

variable {path : String}

theorem checkPath_of_inside (hrelative : isAbsolute path = false) (h : ".." ∉ components path) :
    checkPath path = .ok (pathOf (components path)) := by
  have hsteps : ∀ c ∈ components path, IsStep c := fun _ => isStep_of_mem_components
  have hsplit : ".." ∉ split (pathOf (components path)) := by
    rw [split_pathOf hsteps]
    split
    · decide
    · exact h
  have hclimbs : startsWith "../" (pathOf (components path)) = false :=
    Bool.eq_false_iff.mpr fun hstart =>
    hsplit (mem_split_of_startsWith (by decide) hstart)
  have hup : pathOf (components path) ≠ ".." := by
    intro hup
    rw [hup] at hsplit
    exact hsplit (by decide)
  simp [checkPath, normalize_of_relative (leadingSlashes_eq_zero_iff.mpr hrelative),
    isAbsolute_pathOf hsteps, hclimbs, hup]

/-- **Output paths are confined exactly.** A path is refused if it is absolute or leads above the
output directory on its way. Any other one gives a path in normal form that leads to the same place
and is left as it is. -/
theorem checkPath_confines (path : String) :
    ((∃ problem, checkPath path = .error problem) ↔ isAbsolute path = true ∨ walk path = none) ∧
      ((isAbsolute path = true ∨ walk path = none) ∨
        ∃ normal, checkPath path = .ok normal ∧ isAbsolute normal = false ∧
          walk normal = walk path ∧
          (normal = "." ∨ ∀ c ∈ split normal, c ≠ "" ∧ c ≠ "." ∧ c ≠ "..") ∧
          checkPath normal = .ok normal) := by
  cases habsolute : isAbsolute path with
  | true =>
    have hslashes : leadingSlashes path ≠ 0 := by simp [leadingSlashes_eq_zero_iff, habsolute]
    have herror : checkPath path = .error (.escapes path) := by
      simp [checkPath, isAbsolute_normalize hslashes]
    exact ⟨iff_of_true ⟨_, herror⟩ (.inl rfl), .inl (.inl rfl)⟩
  | false =>
    have hslashes := leadingSlashes_eq_zero_iff.mpr habsolute
    obtain ⟨hwalk, hup⟩ | ⟨hwalk, hhead⟩ := walk_eq_or path
    · have hsteps : ∀ c ∈ components path, IsStep c := fun _ => isStep_of_mem_components
      have hok := checkPath_of_inside habsolute hup
      have hrelative := isAbsolute_pathOf hsteps
      have hcomps : components (pathOf (components path)) = components path :=
        components_pathOf fun c hc => ⟨hsteps c hc, fun heq => hup (heq ▸ hc)⟩
      refine ⟨iff_of_false (by simp [hok]) (by simp [hwalk]), .inr ⟨_, hok, hrelative, ?_, ?_, ?_⟩⟩
      · rw [walk_of_inside (by rwa [hcomps]), hcomps, hwalk]
      · rw [split_pathOf hsteps, pathOf]
        split
        · exact .inl rfl
        · exact .inr fun c hc => ⟨(hsteps c hc).1, (hsteps c hc).2.1, fun heq => hup (heq ▸ hc)⟩
      · rw [checkPath_of_inside hrelative (by rwa [hcomps]), hcomps]
    · obtain ⟨rest, hrest⟩ := List.head?_eq_some_iff.mp hhead
      have herror : checkPath path = .error (.escapes path) := by
        cases rest <;>
          simp [checkPath, normalize_of_relative hslashes, hrest, pathOf, join, startsWith]
      exact ⟨iff_of_true ⟨_, herror⟩ (.inr hwalk), .inl (.inr hwalk)⟩

end TestMigration.Files
