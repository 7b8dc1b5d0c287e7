import TestMigration.Table
/-!
# Scopes

What the names of a class denote. The scopes form a tree, numbered in the order in which they were
opened: number zero is the class, and the parent of a scope always has a smaller number. A name
means what the nearest enclosing scope says that defines it.
-/

namespace TestMigration.Extraction

structure Scope (β : Type) where
  parent : Option Nat := none
  bindings : Table String β := []

structure Scopes (β : Type) where
  scopes : List (Scope β) := [{}]

namespace Scopes

variable {β : Type}

def own? (s : Scopes β) (i : Nat) (name : String) : Option β :=
  s.scopes[i]?.bind fun scope => Table.get? name scope.bindings

def parent? (s : Scopes β) (i : Nat) : Option Nat := s.scopes[i]?.bind Scope.parent

/-- Opens a scope inside another one and gives its number. -/
def child (s : Scopes β) (i : Nat) : Scopes β × Nat :=
  ({ scopes := s.scopes ++ [{ parent := some i }] }, s.scopes.length)

def define (s : Scopes β) (i : Nat) (name : String) (b : β) : Scopes β :=
  { scopes := s.scopes.modify i fun scope =>
      { scope with bindings := Table.put name b scope.bindings } }

/-- What a name denotes in at most `n` scopes from `i` outwards. -/
def lookupFrom (s : Scopes β) (name : String) : Nat → Nat → Option β
  | 0, _ => none
  | n + 1, i =>
    match s.own? i name with
    | some b => some b
    | none =>
      match s.parent? i with
      | some p => lookupFrom s name n p
      | none => none

def lookup (s : Scopes β) (i : Nat) (name : String) : Option β :=
  lookupFrom s name s.scopes.length i

/-- The outermost scope around a scope, at most `n` steps away. -/
def outermost (s : Scopes β) : Nat → Nat → Nat
  | 0, i => i
  | n + 1, i =>
    match s.parent? i with
    | some p => outermost s n p
    | none => i

/-- What a field of the object denotes: only the outermost scope counts. -/
def lookupField (s : Scopes β) (i : Nat) (name : String) : Option β :=
  s.own? (s.outermost s.scopes.length i) name

/-- Whether one of at most `n` scopes from `i` outwards defines a name, the outermost aside. -/
def isLocalFrom (s : Scopes β) (name : String) : Nat → Nat → Bool
  | 0, _ => false
  | n + 1, i =>
    match s.parent? i with
    | none => false
    | some p => (s.own? i name).isSome || isLocalFrom s name n p

/-- Whether a name is defined inside a method. -/
def isLocal (s : Scopes β) (i : Nat) (name : String) : Bool := isLocalFrom s name s.scopes.length i

end Scopes

end TestMigration.Extraction
