/-!
# Tables and sorted lists

A table maps keys to values and remembers the order in which its keys were first written. Writing a
key again changes its value and leaves it where it stands. The sort is stable: items that the order
does not tell apart keep their places.
-/

namespace TestMigration

/-- Keys and values in the order in which the keys were first written. -/
abbrev Table (κ : Type) (α : Type) := List (κ × α)

namespace Table

variable {κ α : Type} [DecidableEq κ]

def get? (key : κ) : Table κ α → Option α
  | [] => none
  | (k, a) :: rest => if k = key then some a else get? key rest

def has (key : κ) (t : Table κ α) : Bool := (get? key t).isSome

def put (key : κ) (value : α) : Table κ α → Table κ α
  | [] => [(key, value)]
  | (k, a) :: rest => if k = key then (k, value) :: rest else (k, a) :: put key value rest

/-- The table in which the values of the second one have been written into the first one. -/
def merge (t : Table κ α) (more : Table κ α) : Table κ α :=
  more.foldl (fun t (k, a) => put k a t) t

def ofPairs (pairs : List (κ × α)) : Table κ α := merge [] pairs

def keys (t : Table κ α) : List κ := t.map Prod.fst

@[simp] theorem get?_nil (key : κ) : get? key ([] : Table κ α) = none := rfl

theorem get?_put (key key' : κ) (value : α) (t : Table κ α) :
    get? key' (put key value t) = if key = key' then some value else get? key' t := by
  induction t with
  | nil => simp [put, get?]
  | cons entry rest ih =>
    obtain ⟨k, a⟩ := entry
    by_cases h : k = key
    · subst h
      by_cases h' : k = key' <;> simp [put, get?, h']
    · by_cases h' : k = key'
      · subst h'
        simp [put, get?, h, Ne.symm h]
      · simp [put, get?, h, h', ih]

end Table

/-! ### Lists -/

variable {α : Type}

/-- Adds an item to a list without repetitions, at its end. -/
def insertNew [DecidableEq α] (x : α) (xs : List α) : List α :=
  if x ∈ xs then xs else xs ++ [x]

/-- Inserts an item before the first one that is not less. -/
def insertBy (le : α → α → Bool) (x : α) : List α → List α
  | [] => [x]
  | y :: rest => if le x y then x :: y :: rest else y :: insertBy le x rest

/-- Sorts a list; equal items keep their order. -/
def sortBy (le : α → α → Bool) (xs : List α) : List α := xs.foldr (insertBy le) []

/-- Texts are ordered by their code points. -/
def textLe (a b : String) : Bool := decide (a ≤ b)

def sortTexts (xs : List String) : List String := sortBy textLe xs

/-- A list without its later repetitions. -/
def distinct [BEq α] (xs : List α) : List α :=
  xs.foldl (fun seen x => if seen.contains x then seen else seen ++ [x]) []

end TestMigration
