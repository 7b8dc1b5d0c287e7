import Mathlib.Data.List.Sort
import TestMigration.Table
/-!
# Tables and sorted lists

What the look-ups of a table give after many writes, and which items a sorted list holds. A table is
written from a list of pairs, and the last pair of a key counts; sorting only changes the places of
items, and in which order items with different names are given makes no difference to it.
-/

namespace TestMigration

variable {α : Type}

theorem bind_eq_ok_iff {ε β : Type} {x : Except ε α} {f : α → Except ε β} {b : β} :
    x >>= f = .ok b ↔ ∃ a, x = .ok a ∧ f a = .ok b := by
  cases x <;> simp [bind, Except.bind]

/-! ### Sorting -/

variable {y : α} {xs : List α}

theorem sortBy_eq_insertionSort (le : α → α → Bool) (xs : List α) :
    sortBy le xs = xs.insertionSort fun a b => le a b = true := by
  have hinsert : ∀ (x : α) (xs : List α),
      insertBy le x xs = xs.orderedInsert (fun a b => le a b = true) x := by
    intro x xs
    induction xs with
    | nil => rfl
    | cons y rest ih => rw [insertBy, ih, List.orderedInsert_cons]
  exact congrArg (List.foldr · [] xs) (funext₂ hinsert)

/-- **Sorting only changes places.** -/
theorem sortBy_perm (le : α → α → Bool) (xs : List α) : (sortBy le xs).Perm xs :=
  sortBy_eq_insertionSort le xs ▸ List.perm_insertionSort _ xs

@[simp] theorem mem_sortBy {le : α → α → Bool} {xs : List α} {x : α} :
    x ∈ sortBy le xs ↔ x ∈ xs := (sortBy_perm le xs).mem_iff

section Names

variable (key : α → String)
variable {xs : List α}

theorem pairwise_sortBy_key (xs : List α) :
    (sortBy (fun a b => textLe (key a) (key b)) xs).Pairwise fun a b => key a ≤ key b := by
  have htotal : Std.Total fun a b => textLe (key a) (key b) = true :=
    ⟨fun a b => by simpa [textLe] using String.le_total (key a) (key b)⟩
  have htrans : IsTrans α fun a b => textLe (key a) (key b) = true :=
    ⟨fun a b c => by simpa [textLe] using String.le_trans⟩
  rw [sortBy_eq_insertionSort]
  exact (List.pairwise_insertionSort _ xs).imp of_decide_eq_true

/-- **Sorted by different names, items come in one order.** -/
theorem sortBy_eq_of_perm {ys : List α} (h : xs.Perm ys) (hkeys : (xs.map key).Nodup) :
    sortBy (fun a b => textLe (key a) (key b)) xs =
      sortBy (fun a b => textLe (key a) (key b)) ys := by
  refine List.Perm.eq_of_pairwise (fun a b ha hb hab hba => ?_) (pairwise_sortBy_key key xs)
    (pairwise_sortBy_key key ys) ((sortBy_perm _ xs).trans (h.trans (sortBy_perm _ ys).symm))
  exact List.inj_on_of_nodup_map hkeys (mem_sortBy.mp ha) (h.mem_iff.mpr (mem_sortBy.mp hb))
    (String.le_antisymm hab hba)

end Names

/-! ### Look-ups -/

theorem mem_insertNew [DecidableEq α] {x : α} : y ∈ insertNew x xs ↔ y ∈ xs ∨ y = x := by
  unfold insertNew
  split
  · rename_i hx
    refine ⟨.inl, ?_⟩
    rintro (hy | rfl)
    · exact hy
    · exact hx
  · simp

theorem nodup_insertNew [DecidableEq α] (h : xs.Nodup) (x : α) : (insertNew x xs).Nodup := by
  unfold insertNew
  split
  · exact h
  · rename_i hx
    refine List.nodup_append.mpr ⟨h, List.pairwise_singleton _ _, ?_⟩
    intro y hy z hz
    rw [List.mem_singleton] at hz
    rintro rfl
    exact hx (hz ▸ hy)

theorem mem_foldl_insertNew [DecidableEq α] {ys : List α} :
    y ∈ ys.foldl (fun xs x => insertNew x xs) xs ↔ y ∈ xs ∨ y ∈ ys := by
  induction ys generalizing xs with
  | nil => simp
  | cons x _ ih => rw [List.foldl_cons, ih, mem_insertNew, List.mem_cons, or_assoc]

@[simp] theorem mem_distinct [BEq α] [LawfulBEq α] : y ∈ distinct xs ↔ y ∈ xs := by
  classical
  have hinsert : distinct xs = xs.foldl (fun seen x => insertNew x seen) [] := by
    simp only [distinct, insertNew, List.contains_iff_mem]
    congr!
  simp [hinsert, mem_foldl_insertNew]

theorem nodup_foldl_insertNew [DecidableEq α] (h : xs.Nodup) (ys : List α) :
    (ys.foldl (fun xs x => insertNew x xs) xs).Nodup :=
  List.foldlRecOn ys _ h fun _ h x _ => nodup_insertNew h x

namespace Table

variable {κ : Type} [DecidableEq κ]
variable {key : κ} {t pairs : Table κ α} {a : α}

theorem keys_put (key : κ) (value : α) (t : Table κ α) :
    keys (put key value t) = insertNew key (keys t) := by
  unfold insertNew
  induction t with
  | nil => simp [put, keys]
  | cons entry rest ih =>
    obtain ⟨k, a⟩ := entry
    by_cases hk : k = key
    · simp [put, keys, hk]
    · have hk' : key ≠ k := fun h => hk h.symm
      have hput : put key value ((k, a) :: rest) = (k, a) :: put key value rest := by simp [put, hk]
      rw [hput]
      change k :: keys (put key value rest) = _
      rw [ih]
      change _ = if key ∈ k :: keys rest then _ else _
      by_cases hmem : key ∈ keys rest
      · rw [if_pos hmem, if_pos (List.mem_cons_of_mem _ hmem)]
        rfl
      · rw [if_neg hmem, if_neg (by simp [hk', hmem])]
        rfl

/-- What a table holds after a write was there before or was written. -/
theorem forall_mem_put {P : α → Prop} {value : α} (hnew : P value) (hold : ∀ e ∈ t, P e.2) :
    ∀ e ∈ put key value t, P e.2 := by
  induction t with
  | nil => simpa [put] using hnew
  | cons _ _ ih =>
    obtain ⟨hfirst, hrest⟩ := List.forall_mem_cons.mp hold
    unfold put
    split
    · exact List.forall_mem_cons.mpr ⟨hnew, hrest⟩
    · exact List.forall_mem_cons.mpr ⟨hfirst, ih hrest⟩

theorem nodup_keys_put (h : (keys t).Nodup) (key : κ) (value : α) :
    (keys (put key value t)).Nodup := by
  rw [keys_put]
  exact nodup_insertNew h key

theorem mem_iff_get?_eq_some (h : (keys t).Nodup) : (key, a) ∈ t ↔ get? key t = some a := by
  induction t with
  | nil => simp
  | cons entry rest ih =>
    obtain ⟨k, b⟩ := entry
    rw [keys, List.map_cons, List.nodup_cons] at h
    rw [List.mem_cons, Prod.mk.injEq, get?]
    by_cases hk : k = key
    · subst hk
      have hnot : (k, a) ∉ rest := fun hmem => h.1 (List.mem_map.mpr ⟨(k, a), hmem, rfl⟩)
      simp [hnot, eq_comm]
    · rw [if_neg hk, ← ih h.2]
      simp [Ne.symm hk]

theorem mem_of_get? (h : get? key t = some a) : (key, a) ∈ t := by
  induction t with
  | nil => cases h
  | cons _ _ ih =>
    rw [get?] at h
    split at h
    · rename_i hkey
      cases h
      subst hkey
      exact List.mem_cons_self
    · exact List.mem_cons_of_mem _ (ih h)

theorem mem_keys_of_get? (h : get? key t = some a) :
    key ∈ keys t := List.mem_map.mpr ⟨(key, a), mem_of_get? h, rfl⟩

theorem has_iff_mem_keys : has key t = true ↔ key ∈ keys t := by
  induction t with
  | nil => simp [has, keys]
  | cons entry _ ih =>
    obtain ⟨k, b⟩ := entry
    rw [keys, List.map_cons, List.mem_cons, ← keys, ← ih, has, get?]
    by_cases hk : k = key
    · simp [hk]
    · rw [if_neg hk]
      simp [has, Ne.symm hk]

theorem put_of_not_mem (h : key ∉ keys t) (value : α) : put key value t = t ++ [(key, value)] := by
  induction t with
  | nil => rfl
  | cons _ _ ih =>
    rw [keys, List.map_cons, List.mem_cons, not_or] at h
    rw [put, if_neg (Ne.symm h.1), ih h.2, List.cons_append]

/-- **Of the pairs of a key the last one counts**, and only without any what was there before. -/
theorem get?_merge (key : κ) (pairs t : Table κ α) : get? key (merge t pairs) =
      ((pairs.reverse.find? (·.1 = key)).map Prod.snd).or (get? key t) := by
  induction pairs generalizing t with
  | nil => simp [merge]
  | cons pair rest ih =>
    obtain ⟨k, a⟩ := pair
    have hstep : merge t ((k, a) :: rest) = merge (put k a t) rest := rfl
    rw [hstep, ih, List.reverse_cons, List.find?_append, get?_put]
    cases hrest : rest.reverse.find? (·.1 = key) with
    | some pair => simp
    | none =>
      by_cases hk : k = key
      · simp [hk]
      · simp [hk]

theorem nodup_keys_merge (h : (keys t).Nodup) (pairs : Table κ α) : (keys (merge t pairs)).Nodup :=
  List.foldlRecOn (motive := fun t => (keys t).Nodup) pairs _ h fun _ h pair _ =>
    nodup_keys_put h pair.1 pair.2

theorem nodup_keys_ofPairs (pairs : Table κ α) : (keys (ofPairs pairs)).Nodup :=
  nodup_keys_merge (t := []) List.nodup_nil pairs

theorem merge_eq_append (hpairs : (keys pairs).Nodup)
    (hnew : ∀ key ∈ keys pairs, key ∉ keys t) : merge t pairs = t ++ pairs := by
  induction pairs generalizing t with
  | nil => simp [merge]
  | cons entry rest ih =>
    obtain ⟨key, a⟩ := entry
    have hpairs := List.nodup_cons.mp hpairs
    have hput : put key a t = t ++ [(key, a)] := put_of_not_mem (hnew key List.mem_cons_self) a
    have hmerge : merge t ((key, a) :: rest) = merge (put key a t) rest := rfl
    rw [hmerge, hput, ih hpairs.2, List.append_assoc, List.singleton_append]
    intro other hother hmem
    rw [keys, List.map_append, List.mem_append] at hmem
    rcases hmem with hold | hkey
    · exact hnew other (List.mem_cons_of_mem _ hother) hold
    · exact hpairs.1 (List.mem_singleton.mp hkey ▸ hother)

theorem get?_ofPairs (key : κ) (pairs : Table κ α) :
    get? key (ofPairs pairs) = (pairs.reverse.find? (·.1 = key)).map Prod.snd := by
  rw [ofPairs, get?_merge]
  simp

theorem get?_merge_of_nodup (h : (keys pairs).Nodup) (key : κ) (t : Table κ α) :
    get? key (merge t pairs) = (get? key pairs).or (get? key t) := by
  have hsame : ofPairs pairs = pairs := merge_eq_append h fun _ _ => List.not_mem_nil
  rw [get?_merge, ← get?_ofPairs, hsame]

theorem mem_of_get?_ofPairs (h : get? key (ofPairs pairs) = some a) : (key, a) ∈ pairs := by
  rw [get?_ofPairs, Option.map_eq_some_iff] at h
  obtain ⟨⟨k, b⟩, hfind, rfl⟩ := h
  have hk : k = key := by simpa using List.find?_some hfind
  have hmem : (k, b) ∈ pairs := by simpa using List.mem_of_find?_eq_some hfind
  exact hk ▸ hmem

theorem get?_ofPairs_of_agree (h : (key, a) ∈ pairs)
    (agree : ∀ b, (key, b) ∈ pairs → b = a) : get? key (ofPairs pairs) = some a := by
  cases hget : get? key (ofPairs pairs) with
  | some b => rw [agree b (mem_of_get?_ofPairs hget)]
  | none =>
    rw [get?_ofPairs, Option.map_eq_none_iff, List.find?_eq_none] at hget
    simpa using hget (key, a) (by simpa using h)

end Table

end TestMigration
