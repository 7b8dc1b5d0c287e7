import Mathlib.Data.List.Find
import TestMigration.Extraction.Scope
/-!
# Names mean what the nearest scope says

What a name denotes is read off the record of how the scopes came about (`History`), which knows no
tables: the scopes around a scope (`History.path`) follow from where each was opened, and what a
scope says about a name (`History.latest?`) from the last definition in it. The three questions to
the scopes climb outwards and stop at different places. Since a scope lies in one that was opened
before it, the number of scopes is always enough for the climb (`History.climb`).
-/

namespace TestMigration.Extraction

variable {β : Type} {n : Nat}

/-! ### What one operation does -/

namespace Scopes

variable (s : Scopes β) {i : Nat} (k : Nat) (name x : String) (b : β)

theorem getElem?_child :
    (s.child i).1.scopes[k]? = if k =
      s.scopes.length then some { parent := some i } else s.scopes[k]? := by
  rw [child, List.getElem?_append]
  grind

theorem own?_child : (s.child i).1.own? k x = s.own? k x := by
  rw [own?, getElem?_child, own?]
  split
  · next hk => simp [hk]
  · rfl

theorem parent?_child :
    (s.child i).1.parent? k = if k = s.scopes.length then some i else s.parent? k := by
  rw [parent?, getElem?_child, parent?]
  split <;> rfl

theorem own?_define (hi : i < s.scopes.length) :
    (s.define i name b).own? k x = if i = k ∧ name = x then some b else s.own? k x := by
  by_cases hk : i = k
  · subst hk
    simp [own?, define, List.getElem?_eq_getElem hi, Table.get?_put]
  · simp [own?, define, hk]

theorem parent?_define : (s.define i name b).parent? k = s.parent? k := by
  simp only [parent?, define, List.getElem?_modify]
  cases s.scopes[k]? with
  | none => rfl
  | some scope => by_cases hk : i = k <;> simp [hk]

end Scopes

/-! ### Histories -/

/-- What was done since there was only the class, with the number of scopes that there are now. Only
a scope that exists can be opened in or defined in. -/
inductive History (β : Type) : Nat → Type
  | start : History β 1
  | child {n : Nat} (h : History β n) (i : Fin n) : History β (n + 1)
  | define {n : Nat} (h : History β n) (i : Fin n) (name : String) (b : β) : History β n

namespace History

/-- The scopes that a history leaves. -/
def scopes {n : Nat} : History β n → Scopes β
  | start => {}
  | child h i => (h.scopes.child i).1
  | define h i name b => h.scopes.define i name b

/-- A scope and those around it, out to the class. -/
def path {n : Nat} : History β n → Nat → List Nat
  | start, _ => [0]
  | child (n := n) h i, j => if j = n then n :: h.path i else h.path j
  | define h _ _ _, j => h.path j

/-- The binding that a name was last given in a scope. -/
def latest? {n : Nat} : History β n → Nat → String → Option β
  | start, _, _ => none
  | child h _, k, x => h.latest? k x
  | define h i name b, k, x => if i = k ∧ name = x then some b else h.latest? k x

/-- The nearest scope around a scope in which a name was given a binding. -/
def nearest? (h : History β n) (j : Nat) (x : String) : Option Nat :=
  (h.path j).find? fun k => (h.latest? k x).isSome

variable (h : History β n) {j : Nat} (x : String)

theorem length_scopes : h.scopes.scopes.length = n := by
  induction h with
  | start => rfl
  | child h i ih => simp [scopes, Scopes.child, ih]
  | define h i name b ih => simp [scopes, Scopes.define, ih]

theorem own?_scopes (k : Nat) : h.scopes.own? k x = h.latest? k x := by
  induction h with
  | start => cases k <;> rfl
  | child h i ih => rw [scopes, Scopes.own?_child, ih, latest?]
  | define h i name b ih =>
    rw [scopes, Scopes.own?_define _ _ _ _ _ (h.length_scopes.symm ▸ i.isLt), ih, latest?]

/-- A scope is the class or lies in a scope that was opened before it. -/
theorem path_cases (hj : j < n) :
    (j = 0 ∧ h.path j = [0] ∧ h.scopes.parent? j = none) ∨
      ∃ p < j, h.path j = j :: h.path p ∧ h.scopes.parent? j = some p := by
  induction h with
  | start =>
    obtain rfl := Nat.lt_one_iff.mp hj
    exact .inl ⟨rfl, rfl, rfl⟩
  | @child n h i ih =>
    simp only [path, scopes, Scopes.parent?_child, length_scopes]
    obtain rfl | hne := eq_or_ne j n
    · exact .inr ⟨i, i.isLt, by simp [i.isLt.ne]⟩
    · have hlt : j < n := by omega
      obtain hclass | ⟨p, hp, hup⟩ := ih hlt
      · exact .inl (by simpa [hne] using hclass)
      · exact .inr ⟨p, hp, by simpa [hne, (hp.trans hlt).ne] using hup⟩
  | define h i name b ih => simpa only [path, scopes, Scopes.parent?_define] using ih hj

/-- The three climbs, with as many steps left as there may be scopes. The class is on every way
out. -/
theorem climb {m : Nat} (hm : j < m) (hj : j < n) :
    h.scopes.lookupFrom x m j = (h.nearest? j x).bind (h.latest? · x) ∧ h.scopes.outermost m j = 0 ∧
      (h.scopes.isLocalFrom x m j = true ↔ ∃ k, h.nearest? j x = some k ∧ k ≠ 0) ∧
        0 ∈ h.path j := by
  induction m generalizing j with
  | zero => exact absurd hm j.not_lt_zero
  | succ m ih =>
    rw [Scopes.lookupFrom, Scopes.outermost, Scopes.isLocalFrom, own?_scopes]
    obtain ⟨rfl, hpath, hparent⟩ | ⟨p, hp, hpath, hparent⟩ := h.path_cases hj
    · cases hown : h.latest? 0 x <;> simp [nearest?, hpath, hparent, hown]
    · -- What is around has a smaller number, so the steps that are left are enough for it.
      have hup := ih (by omega : p < m) (by omega)
      cases hown : h.latest? j x with
      | none => simpa [nearest?, hpath, hparent, hown, show 0 ≠ j by omega] using hup
      | some b => simp [nearest?, hpath, hparent, hown, hup, show j ≠ 0 by omega]

/-! ### Lexical scoping -/

section

variable (hj : j < n)
include hj

theorem lookup_scopes : h.scopes.lookup j x = (h.nearest? j x).bind (h.latest? · x) :=
  (h.climb x (h.length_scopes.symm ▸ hj) hj).1

theorem lookupField_scopes : h.scopes.lookupField j x = h.latest? 0 x := by
  rw [Scopes.lookupField, (h.climb x (h.length_scopes.symm ▸ hj) hj).2.1, own?_scopes]

theorem isLocal_scopes : h.scopes.isLocal j x = true ↔ ∃ k, h.nearest? j x = some k ∧ k ≠ 0 :=
  (h.climb x (h.length_scopes.symm ▸ hj) hj).2.2.1

theorem lookup_of_not_local (hlocal : h.scopes.isLocal j x = false) :
    h.scopes.lookup j x = h.scopes.lookupField j x := by
  rw [h.lookup_scopes x hj, h.lookupField_scopes x hj]
  cases hnear : h.nearest? j x with
  | none =>
    have hclass : 0 ∈ h.path j := (h.climb x (h.length_scopes.symm ▸ hj) hj).2.2.2
    exact (Option.not_isSome_iff_eq_none.mp (List.find?_eq_none.mp hnear 0 hclass)).symm
  | some k =>
    obtain rfl : k = 0 := by
      by_contra hne
      exact Bool.eq_false_iff.mp hlocal ((h.isLocal_scopes x hj).mpr ⟨k, hnear, hne⟩)
    rfl

variable {i : Fin n} {name : String} (b : β)

/-- What is said about a name around a scope changes only by a definition of the name there. -/
theorem define_of_not (hout : ¬(x = name ∧ ↑i ∈ h.path j)) :
    (h.scopes.define i name b).lookup j x = h.scopes.lookup j x ∧
      (h.scopes.define i name b).isLocal j x = h.scopes.isLocal j x := by
  have hlatest : ∀ k ∈ h.path j, (h.define i name b).latest? k x = h.latest? k x := by
    intro k hk
    refine if_neg ?_
    rintro ⟨rfl, rfl⟩
    exact hout ⟨rfl, hk⟩
  have hnear : (h.define i name b).nearest? j x = h.nearest? j x :=
    List.find?_congr fun k hk => congrArg Option.isSome (hlatest k hk)
  have hlookup := (h.define i name b).lookup_scopes x hj
  have hlocal := (h.define i name b).isLocal_scopes x hj
  rw [hnear] at hlookup hlocal
  constructor
  · rw [h.lookup_scopes x hj]
    exact hlookup.trans (Option.bind_congr fun k hk => hlatest k (List.mem_of_find?_eq_some hk))
  · exact Bool.eq_iff_iff.mpr (hlocal.trans (h.isLocal_scopes x hj).symm)

end

/-- **Scopes obey lexical scoping.** After any history, a name denotes what the nearest scope around
that says something about it said last. It is local if that scope is not the class, and otherwise it
is the field. The next scope gets the next number. A definition makes a difference only for its own
name and only where its scope is on the way out, and for fields only in the class. -/
theorem lexically_scoped (j : Fin n) :
    h.scopes.lookup j x = (h.nearest? j x).bind (h.latest? · x) ∧
      (h.scopes.isLocal j x = true ↔ ∃ k, h.nearest? j x = some k ∧ k ≠ 0) ∧
      (h.scopes.isLocal j x = false → h.scopes.lookup j x = h.scopes.lookupField j x) ∧
      h.scopes.lookupField j x = h.latest? 0 x ∧ (∀ i, (h.scopes.child i).2 = n) ∧
      ∀ (i : Fin n) (name : String) (b : β),
        ((h.scopes.define i name b).lookup j x ≠ h.scopes.lookup j x → x = name ∧ ↑i ∈ h.path j) ∧
        ((h.scopes.define i name b).isLocal j x ≠ h.scopes.isLocal j x → x = name ∧ ↑i ∈ h.path j) ∧
        ((h.scopes.define i name b).lookupField j x ≠ h.scopes.lookupField j x →
          x = name ∧ (i : Nat) = 0) := by
  have hj := j.isLt
  refine ⟨h.lookup_scopes x hj, h.isLocal_scopes x hj, h.lookup_of_not_local x hj,
    h.lookupField_scopes x hj,
    fun _ => h.length_scopes, fun i name b => ⟨?_, ?_, ?_⟩⟩ <;> intro hne <;>
      by_contra hout <;> apply hne
  · exact (h.define_of_not x hj b hout).1
  · exact (h.define_of_not x hj b hout).2
  · rw [h.lookupField_scopes x hj]
    refine ((h.define i name b).lookupField_scopes x hj).trans (if_neg ?_)
    rintro ⟨hzero, rfl⟩
    exact hout ⟨rfl, hzero⟩

theorem lexically_scoped_beside_local :
    let h : History Nat 3 := ((start.child 0).child 0).define 1 "box" 7
    h.scopes.isLocal 1 "box" = true ∧ h.scopes.isLocal 2 "box" = false ∧
      h.scopes.lookup 2 "box" = h.scopes.lookupField 2 "box" ∧
      (h.scopes.define 0 "box" 8).lookup 2 "box" ≠ h.scopes.lookup 2 "box" ∧ 0 ∈ h.path 2 := by
  intro h
  have hlocal : h.scopes.isLocal 2 "box" = false := by decide
  have hne : (h.scopes.define 0 "box" 8).lookup 2 "box" ≠ h.scopes.lookup 2 "box" := by decide
  obtain ⟨-, -, hfield, -, -, hframe⟩ := h.lexically_scoped "box" 2
  exact ⟨by decide, hlocal, hfield hlocal, hne, ((hframe 0 "box" 8).1 hne).2⟩

end History

end TestMigration.Extraction
