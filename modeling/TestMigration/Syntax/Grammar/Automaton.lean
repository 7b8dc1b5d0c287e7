import TestMigration.Syntax.Grammar.Item
import TestMigration.Syntax.Grammar.Language
/-!
# The automaton of the grammar

A state of the automaton is a set of items, each with the terminals that may follow what it builds.
Its row says what to do at each terminal: read it and go to another state, or close one of the items
that are complete. Several actions may be left for one terminal; all of them are followed then.

Ranks thin the actions out. Of two items that can be closed the higher rank wins. Between closing
and reading on, the rank of what can be closed is compared with the ranks of the items that would go
on, and if they are equal the side decides. One case is left to the reader of the tables: where the
choice is only whether a repetition is joined now or later, reading on is marked as superfluous.
-/

namespace TestMigration.Syntax

open Std (HashMap)

inductive Action where
  /-- Read the terminal; `superfluous` if closing a repetition first comes to the same. -/
  | shift (target : Nat) (superfluous : Bool)
  /-- Close what the reduction with the given number builds. -/
  | reduce (reduction : Nat)
  | accept
  deriving DecidableEq, Repr

/-- How a nonterminal is built from the symbols that have been read. -/
structure Reduction where
  /-- The number of the nonterminal, counted from the first nonterminal. -/
  owner : Nat
  length : Nat
  weight : Int
  parts : List (Option Label × Option Role)
  /-- Whether the one part could stand for the whole: it has no label and no role. -/
  isPlain : Bool
  deriving DecidableEq, Repr, Hashable

/-- The items of a state in ascending order, with the terminals that may follow. -/
abbrev Kernel := List (Nat × TerminalSet)

/-- A row of the table: the actions by terminal, and the states after the nonterminals. -/
structure Row where
  actions : Array (List Action)
  gotos : Array (Option Nat)
  deriving Inhabited

/-! ### Reductions -/

def Numbered.reductionOf (g : Numbered) (item : Item) : Reduction :=
  { owner := item.owner, length := item.length, weight := item.weight
    parts := item.steps.map fun s => (s.label, s.role)
    isPlain := item.weight == 0 && match item.steps with
      | [s] => s.label.isNone && s.role.isNone
          && !(Numbered.bringsRole g.numbers g.terminals.size g.passesRoles s)
      | _ => false }

def Numbered.reductions (g : Numbered) : Array Reduction × Array Nat :=
  let (_, found, numbers) := g.items.foldl (fun (known, found, numbers) item =>
    if item.next.isSome then (known, found, numbers.push 0)
    else
      let r := g.reductionOf item
      match known[r]? with
      | some n => (known, found, numbers.push n)
      | none => (known.insert r found.size, found.push r, numbers.push found.size))
    (({} : HashMap Reduction Nat), #[], #[])
  (found, numbers)

/-! ### The states after a state -/

def addItem (item : Nat) (set : TerminalSet) : Kernel → Kernel
  | [] => [(item, set)]
  | (i, s) :: rest =>
    if item < i then (item, set) :: (i, s) :: rest
    else if item == i then (i, s.union set) :: rest
    else (i, s) :: addItem item set rest

/-- What may follow each nonterminal that a state starts to read. -/
def Numbered.contexts (g : Numbered) (kernel : Kernel) : Array TerminalSet :=
  kernel.foldl (fun cs (i, set) =>
    let item := g.items.getD i default
    match item.next with
    | none => cs
    | some n =>
      if n < g.terminals.size then cs
      else
        let follow := match item.afterNext with
          | some f => g.firsts.getD f .none
          | none => set
        (g.leading.getD (n - g.terminals.size) []).foldl (fun cs (k, s, passes) =>
          cs.modify k fun known =>
            (known.union s).union (if passes then follow else .none)) cs)
    (Array.replicate g.nonterminals.size TerminalSet.none)

/-- The kernels after every symbol. -/
def Numbered.successors (g : Numbered) (kernel : Kernel) : Array Kernel :=
  let advance (after : Array Kernel) (i : Nat) (set : TerminalSet) : Array Kernel :=
    let item := g.items.getD i default
    match item.next with
    | none => after
    | some n => after.modify n (addItem item.ahead set)
  let empty := Array.replicate (g.terminals.size + g.nonterminals.size) ([] : Kernel)
  let fromKernel := kernel.foldr (fun (i, set) after => advance after i set) empty
  let contexts := g.contexts kernel
  (List.range contexts.size).foldr (fun k after =>
    let set := contexts.getD k .none
    if set.isEmpty then after
    else (g.openings.getD k []).foldr (fun i after => advance after i set) after) fromKernel

/-! ### The actions of a state -/

structure Cell where
  actions : List Action := []
  /-- The rank of what can be closed, and the sides that were met. -/
  rank : Int := 0
  hasLeft : Bool := false
  hasRight : Bool := false
  hasNone : Bool := false
  isClash : Bool := false
  deriving Inhabited

def Cell.close (c : Cell) (item : Item) (action : Action) : Cell :=
  let met (c : Cell) : Cell := match item.side with
    | some .left => { c with rank := item.rank, hasLeft := true }
    | some .right => { c with rank := item.rank, hasRight := true }
    | none => { c with rank := item.rank, hasNone := true }
  if c.actions.isEmpty then met { c with actions := [action] }
  else if item.rank > c.rank then met { actions := [action] }
  else if item.rank == c.rank then met { c with actions := c.actions ++ [action], isClash := true }
  else c

/-- The cells of a state before a terminal can be read. -/
def Numbered.closings (g : Numbered) (reductionOf : Array Nat) (kernel : Kernel) : Array Cell :=
  let close (cells : Array Cell) (i : Nat) (set : TerminalSet) : Array Cell :=
    let item := g.items.getD i default
    if item.next.isSome then cells
    else
      let action : Action :=
        if item.owner == g.nonterminals.size then .accept else .reduce (reductionOf.getD i 0)
      (set.members g.terminals.size).foldl
        (fun cells t => cells.modify t (·.close item action)) cells
  let empty := Array.replicate g.terminals.size ({} : Cell)
  let opened := (g.contexts kernel).toList.zipIdx.flatMap fun (set, k) =>
    if set.isEmpty then []
    else ((g.openings.getD k []).filter fun i =>
      (g.items.getD i default).next.isNone).map fun i => (i, set)
  let cells := opened.foldl (fun cells (i, set) => close cells i set) empty
  kernel.foldl (fun cells (i, set) => close cells i set) cells

/-- The items of a state that concern a terminal: those that can be closed before it, and started
ones that can go on with it. -/
def Numbered.involved (g : Numbered) (kernel : Kernel) (t : Nat) : List Item :=
  kernel.filterMap fun (i, set) =>
    let item := g.items.getD i default
    match item.next with
    | none => if set.contains t && item.owner != g.nonterminals.size then some item else none
    | some n => if item.place > 0 && (g.firsts.getD n .none).contains t then some item else none

/-- The actions at a terminal that can be read and before which something can be closed. -/
def Numbered.resolve (g : Numbered) (kernel : Kernel) (t target : Nat) (c : Cell) : List Action :=
  let involved := g.involved kernel t
  let owners := (involved.filterMap fun item =>
    if item.owner == g.nonterminals.size then none else some item.owner).eraseDups
  let isRepetition := match owners with
    | [n] => match (g.nonterminals[n]?).map Nonterminal.symbol with
      | some (.repetition _) => true
      | _ => false
    | _ => false
  let ranks := (involved.filter fun item => item.next.isSome).map Item.rank
  let lower := ranks.any (· < c.rank)
  let higher := ranks.any (· > c.rank)
  if isRepetition then c.actions ++ [.shift target true]
  else if higher && !lower then [.shift target false]
  else if lower && !higher then c.actions
  else if !lower && c.hasLeft && !c.hasRight && !c.hasNone then c.actions
  else if !lower && c.hasRight && !c.hasLeft && !c.hasNone then [.shift target false]
  else c.actions ++ [.shift target false]

/-! ### All states -/

/-- The automaton so far: the known kernels, and the rows of those whose successors have been
found. -/
structure Automaton where
  kernels : Array Kernel
  numbers : HashMap Kernel Nat
  rows : Array Row := #[]

def Automaton.intern (a : Automaton) (k : Kernel) : Automaton × Nat :=
  match a.numbers[k]? with
  | some n => (a, n)
  | none =>
    let n := a.kernels.size
    ({ a with kernels := a.kernels.push k, numbers := a.numbers.insert k n }, n)

/-- Adds the row of the next kernel. -/
def Automaton.expand (g : Numbered) (reductionOf : Array Nat) (kernel : Kernel) (a : Automaton) :
    Automaton :=
  let cells := g.closings reductionOf kernel
  let gotos := Array.replicate g.nonterminals.size (none : Option Nat)
  let (a, cells, gotos, _) := (g.successors kernel).foldl (fun (a, cells, gotos, n) successor =>
    if successor.isEmpty then (a, cells, gotos, n + 1)
    else
      let (a, target) := a.intern successor
      if n < g.terminals.size then
        let cells := cells.modify n fun c =>
          if c.actions.isEmpty then { c with actions := [.shift target false] }
          else { c with actions := g.resolve kernel n target c }
        (a, cells, gotos, n + 1)
      else (a, cells, gotos.setIfInBounds (n - g.terminals.size) (some target), n + 1))
    (a, cells, gotos, 0)
  { a with rows := a.rows.push { actions := cells.map Cell.actions, gotos } }

/-- Adds rows until every kernel has one, at most `n`. -/
def Automaton.complete (g : Numbered) (reductionOf : Array Nat) : Nat → Automaton → Automaton
  | 0, a => a
  | n + 1, a =>
    match a.kernels[a.rows.size]? with
    | none => a
    | some kernel => complete g reductionOf n (a.expand g reductionOf kernel)

/-- How many states an automaton may have. -/
def maxStates : Nat := 100000

def Automaton.ofGrammar (g : Numbered) (reductionOf : Array Nat) : Automaton :=
  let start : Kernel := [(g.start, .single 0)]
  complete g reductionOf maxStates { kernels := #[start], numbers := HashMap.ofList [(start, 0)] }

/-- The terminals one of which can be taken for the other, depending on what follows. -/
def confusable : List (List Terminal) :=
  [[.fixed ">", .fixed ">>", .fixed ">>>", .fixed ">>=", .fixed ">>>="],
    [.fixed "+", .fixed "++"], [.fixed "-", .fixed "--"], [.fixed "@", .fixed "@interface"],
    [.name, .fixed "non-sealed"]]

def confusions (terminals : Array Terminal) : Array TerminalSet :=
  terminals.map fun t => (terminals.zipIdx.toList.filter fun (u, _) =>
    u != t && confusable.any fun group => group.contains t && group.contains u).foldl
      (fun set (_, n) => set.union (.single n)) .none

/-!
### Merging states

Most states of the automaton differ only in what may follow their items, and most of these can be
merged. That is not only a matter of size. In a merged state a terminal is expected if one of its
states expects it, and what is expected decides whether a word is a keyword and how far a mark goes.
So the merged states are part of what the language is.

States with the same items are put into one group. A group is split where two of its states act
differently, or where one would be given a terminal that can be confused with one it expects, and
then until all states of a group lead to the same groups. In the end, a state that does nothing but
close a hidden symbol of one part is passed by.
-/

/-- A partition of the states: the members of each group in ascending order, and each state's
group. -/
structure Partition where
  groups : Array (List Nat)
  groupOf : Array Nat

def Partition.group (p : Partition) (state : Nat) : Nat := p.groupOf.getD state 0

/-- The groups of the states with the same items. -/
def Partition.ofKernels (kernels : Array Kernel) : Partition :=
  let (_, groups, groupOf) := kernels.foldl (fun (known, groups, groupOf) kernel =>
    let core := kernel.map Prod.fst
    match known[core]? with
    | some n => (known, groups.modify n (groupOf.size :: ·), groupOf.push n)
    | none => (known.insert core groups.size, groups.push [groupOf.size], groupOf.push groups.size))
    (({} : HashMap (List Nat) Nat), (#[] : Array (List Nat)), (#[] : Array Nat))
  { groups := groups.map List.reverse, groupOf }

/-- The members of a group that can stay together, and the others. A state leaves if it differs from
one that stays. -/
def divide (differ : Nat → Nat → Bool) (group : List Nat) : List Nat × List Nat :=
  let (stay, leave) := group.foldl (fun (stay, leave) q =>
    if stay.any (differ · q) then (stay, q :: leave) else (q :: stay, leave)) ([], [])
  (stay.reverse, leave.reverse)

/-- Splits the groups from the given number on; what leaves a group is a new group at the end. -/
def Partition.split (differ : Partition → Nat → Nat → Bool) : Nat → Nat → Partition → Partition
  | 0, _, p => p
  | n + 1, k, p =>
    if k ≥ p.groups.size then p
    else
      let (stay, leave) := divide (differ p) (p.groups.getD k [])
      if leave.isEmpty then split differ n (k + 1) p
      else
        let new := p.groups.size
        split differ n (k + 1) {
          groups := (p.groups.setIfInBounds k stay).push leave
          groupOf := leave.foldl (fun of q => of.setIfInBounds q new) p.groupOf }

/-- Splits the groups as long as that makes new ones, at most `n` times. -/
def Partition.splitAll (differ : Partition → Nat → Nat → Bool) (states : Nat) :
    Nat → Partition → Partition
  | 0, p => p
  | n + 1, p =>
    let q := p.split differ (states + 1) 0
    if q.groups.size == p.groups.size then q else splitAll differ states n q

/-! ### What tells two states apart -/

def Partition.sameAction (p : Partition) : Action → Action → Bool
  | .shift a s, .shift b t => p.group a == p.group b && s == t
  | .reduce a, .reduce b => a == b
  | .accept, .accept => true
  | _, _ => false

def Partition.sameActions (p : Partition) : List Action → List Action → Bool
  | [], [] => true
  | a :: as, b :: bs => p.sameAction a b && p.sameActions as bs
  | _, _ => false

/-- A row by its content: the terminals it expects, the actions at each, and the states that follow
the symbols, in ascending order. -/
structure RowSketch where
  expected : TerminalSet
  actions : List (Nat × List Action)
  targets : List (Nat × Nat)
  deriving Inhabited

def shiftTarget? (actions : List Action) : Option Nat :=
  match actions.getLast? with
  | some (.shift target _) => some target
  | _ => none

def Row.sketch (r : Row) : RowSketch :=
  let actions := r.actions.toList.zipIdx.filterMap fun (as, t) =>
    if as.isEmpty then none else some (t, as)
  let shifts := actions.filterMap fun (t, as) => (shiftTarget? as).map fun target => (t, target)
  let gotos := r.gotos.toList.zipIdx.filterMap fun (g, k) =>
    g.map fun target => (r.actions.size + k, target)
  { expected := actions.foldl (fun set (t, _) => set.union (.single t)) .none
    actions, targets := shifts ++ gotos }

/-- Whether two lists in ascending order have different values for the same number. -/
def disagree (differ : α → α → Bool) : List (Nat × α) → List (Nat × α) → Bool
  | [], _ | _, [] => false
  | (m, x) :: xs, (n, y) :: ys =>
    if m < n then disagree differ xs ((n, y) :: ys)
    else if n < m then disagree differ ((m, x) :: xs) ys
    else differ x y || disagree differ xs ys
termination_by xs ys => xs.length + ys.length

def confuses (confusions : List (Nat × TerminalSet)) (given expected : TerminalSet) : Bool :=
  confusions.any fun (t, others) =>
    given.contains t && !(expected.contains t) && (others.bits &&& expected.bits) != 0

def conflicting (rows : Array RowSketch) (confusions : List (Nat × TerminalSet)) (p : Partition)
    (a b : Nat) : Bool :=
  let ra := rows.getD a default
  let rb := rows.getD b default
  disagree (fun x y => !(p.sameActions x y)) ra.actions rb.actions
    || confuses confusions ra.expected rb.expected || confuses confusions rb.expected ra.expected

/-- Whether two states lead to different groups. -/
def leadApart (rows : Array RowSketch) (p : Partition) (a b : Nat) : Bool :=
  disagree (fun x y => p.group x != p.group y) (rows.getD a default).targets
    (rows.getD b default).targets

/-! ### The merged rows -/

def Partition.renumber (p : Partition) : Action → Action
  | .shift target s => .shift (p.group target) s
  | a => a

/-- The row of a group: at each terminal the actions of the first state that has any. -/
def Partition.rowOf (p : Partition) (rows : Array Row) (group : List Nat) : Row :=
  let merged := group.foldl (fun (m : Option Row) q =>
    let r := rows.getD q default
    match m with
    | none => some r
    | some m => some {
        actions := m.actions.zipWith (fun x y => if x.isEmpty then y else x) r.actions
        gotos := m.gotos.zipWith (fun x y => x <|> y) r.gotos }) none
  let row := merged.getD default
  { actions := row.actions.map fun as => as.map p.renumber
    gotos := row.gotos.map fun g => g.map p.group }

/-- The hidden nonterminal that is all a state closes, if it has only one plain part. -/
def unitOwner? (g : Numbered) (reductions : Array Reduction) (row : Row) : Option Nat :=
  let owner? : Action → Option Nat
    | .reduce n =>
      match reductions[n]? with
      | some r =>
        let hidden := match (g.nonterminals[r.owner]?).map Nonterminal.symbol with
          | some (.rule k) => k.isHidden && !k.isChoice
          | some (.repetition _) => true
          | _ => false
        if r.isPlain && hidden then some r.owner else none
      | none => none
    | _ => none
  let owners := row.actions.toList.flatMap fun as => as.map owner?
  match owners with
  | some o :: rest => if rest.all (· == some o) then some o else none
  | _ => none

/-- Where a state leads if the states that only close a hidden symbol are passed by. -/
def passBy (units : Array (Option Nat)) (gotos : Array (Option Nat)) : Nat → Nat → Nat
  | 0, target => target
  | n + 1, target =>
    match (units.getD target none).bind fun owner => gotos.getD owner none with
    | some next => if next == target then target else passBy units gotos n next
    | none => target

/-- A row in which the states that only close a hidden symbol are passed by. -/
def Row.shorten (units : Array (Option Nat)) (r : Row) : Row :=
  let pass := passBy units r.gotos r.gotos.size
  { actions := r.actions.map fun as => as.map fun
      | .shift target s => .shift (pass target) s
      | a => a
    gotos := r.gotos.map fun g => g.map pass }

/-! ### The table -/

/-- All that is needed to read a text by the grammar. -/
structure ParseTable where
  terminals : Array Terminal
  nonterminals : Array Symbol
  reductions : Array Reduction
  rows : Array Row
  /-- The number of the first state. -/
  start : Nat
  numbers : HashMap Terminal Nat

def ParseTable.ofRules (rules : List (Kind × Rule)) : ParseTable :=
  let g := Numbered.ofRules rules
  let (reductions, reductionOf) := g.reductions
  let automaton := Automaton.ofGrammar g reductionOf
  let rows := automaton.rows
  let sketches := rows.map Row.sketch
  let confusing := (confusions g.terminals).toList.zipIdx.filterMap fun (set, t) =>
    if set.isEmpty then none else some (t, set)
  let size := rows.size
  let p := Partition.ofKernels automaton.kernels
  let p := p.split (conflicting sketches confusing) (size + 1) 0
  let p := p.splitAll (leadApart sketches) size size
  let merged := p.groups.map (p.rowOf rows)
  let units := merged.map (unitOwner? g reductions)
  { terminals := g.terminals, nonterminals := g.nonterminals.map Nonterminal.symbol, reductions
    rows := merged.map (Row.shorten units), start := p.group 0
    numbers := g.terminals.toList.zipIdx.foldl (fun m (t, n) => m.insert t n) {} }

def parseTable : ParseTable := .ofRules Rule.all

end TestMigration.Syntax
