import Std.Data.HashMap
import TestMigration.Syntax.Grammar.Symbol
/-!
# Items

An item is a production with a place in it: what stands before the place has been read. Two items
that agree in what is still to be read, and in the rank, the labels and the roles of what has been
read, are the same item, even if they come from different productions. So after the operand that
follows it, nothing depends any more on which of several operators of one rank was read.

For the tables, symbols and items are numbers. The terminals come first, then the nonterminals, and
items are numbered by their place, then by their nonterminal. A set of terminals is a number too,
with one bit for each terminal.
-/

namespace TestMigration.Syntax

open Std (HashMap)

/-!
### Productions

A rule with choices and repetitions is the same as a list of plain sequences. A repetition becomes a
symbol of its own, which is either one round of what is repeated or two runs of itself, and equal
repetitions share their symbol. A choice becomes one sequence for each way to choose.

What a rule says about ranks and roles is written to the single steps. The rank of a part holds for
all its steps but the last, unless the part ends the rule: after the last step the part is complete,
and what the rank around it says holds again.
-/

structure Step where
  symbol : Symbol
  rank : Int := 0
  side : Option Side := none
  label : Option Label := none
  role : Option Role := none
  deriving DecidableEq, Repr, Hashable

structure Production where
  steps : List Step := []
  weight : Int := 0
  deriving DecidableEq, Repr

structure Nonterminal where
  symbol : Symbol
  productions : List Production

/-- Of two weights the one further from zero, and of equal ones the first. -/
def heavier (a b : Int) : Int := if b.natAbs > a.natAbs then b else a

def Production.append (a b : Production) : Production :=
  { steps := a.steps ++ b.steps, weight := heavier a.weight b.weight }

/-! ### Repetitions -/

/-- A rule with symbols for its repetitions. The state lists what is repeated. -/
def Rule.unroll : Rule → StateM (Array Rule) Rule
  | .empty => return .empty
  | .symbol s => return .symbol s
  | .both a b => return .both (← a.unroll) (← b.unroll)
  | .either a b => return .either (← a.unroll) (← b.unroll)
  | .oneOrMore a => do
    let body ← a.unroll
    let known ← get
    match known.idxOf? body with
    | some n => return .symbol (.repetition n)
    | none =>
      set (known.push body)
      return .symbol (.repetition known.size)
  | .ranked n side a => return .ranked n side (← a.unroll)
  | .weighted n a => return .weighted n (← a.unroll)
  | .inRole role a => return .inRole role (← a.unroll)
  | .shownAs label a => return .shownAs label (← a.unroll)

/-! ### Choices -/

def closeSteps (rank : Int) (side : Option Side) (changesSide : Bool) : List Step → List Step
  | [] => []
  | [s] => [{ s with rank, side := if changesSide then side else s.side }]
  | s :: rest => s :: closeSteps rank side changesSide rest

/-- The productions of a rule without repetitions, inside of the given step; `last` tells whether
the rule ends with it. -/
def Rule.productions (around : Step) (last : Bool) : Rule → List Production
  | .empty | .oneOrMore _ => [{}]
  | .symbol s => [{ steps := [{ around with symbol := s }] }]
  | .both a b =>
    let ends := b.productions around last
    (a.productions around false).flatMap fun p => ends.map p.append
  | .either a b => a.productions around last ++ b.productions around last
  | .ranked rank side a =>
    let inner := a.productions { around with rank, side := side <|> around.side } last
    if last then inner
    else inner.map fun p =>
      { p with steps := closeSteps around.rank around.side side.isSome p.steps }
  | .weighted weight a =>
    (a.productions around last).map fun p => { p with weight := heavier weight p.weight }
  | .inRole role a => a.productions { around with role := some role } last
  | .shownAs label a => a.productions { around with label := some label } last

def Rule.alternatives (r : Rule) : List Production :=
  (r.productions { symbol := .terminal .finish } true).eraseDups

/-! ### Inlining -/

def Step.replacedBy (step : Step) (p : Production) : Production :=
  let steps := p.steps.map fun s =>
    { s with label := step.label <|> s.label, role := step.role <|> s.role }
  { p with steps := close steps }
where
  /-- The last step takes rank and side of the replaced step if it has none. -/
  close : List Step → List Step
    | [] => []
    | [s] => [{ s with
        rank := if s.rank == 0 then step.rank else s.rank, side := s.side <|> step.side }]
    | s :: rest => s :: close rest

def inlineSteps (alternatives : Symbol → Option (List Production)) (weight : Int) :
    List Step → List Production
  | [] => [{ weight }]
  | s :: rest =>
    let ends := inlineSteps alternatives weight rest
    match alternatives s.symbol with
    | none => ends.map fun p => { p with steps := s :: p.steps }
    | some choices => choices.flatMap fun c => ends.map fun p =>
        { steps := (s.replacedBy c).steps ++ p.steps, weight := heavier p.weight c.weight }

/-! ### Grammars -/

/-- Rules without their repetitions, and what is repeated. -/
def unrollAll : List (Kind × Rule) → StateM (Array Rule) (List (Kind × Rule))
  | [] => return []
  | (k, r) :: rest => do
    let r ← r.unroll
    return (k, r) :: (← unrollAll rest)

/-- The nonterminals of a list of rules: those of the rules first, then the repetitions. -/
def nonterminalsOf (rules : List (Kind × Rule)) : Array Nonterminal :=
  let (unrolled, repeated) := (unrollAll rules).run #[]
  let own := unrolled.map fun (k, r) => (Symbol.rule k, r.alternatives)
  let repetitions := repeated.toList.zipIdx.map fun (r, n) =>
    let again : Rule := .symbol (.repetition n)
    (Symbol.repetition n, (Rule.either (.both again again) r).alternatives)
  let isInlined : Symbol → Bool := fun s => match s with
    | .rule k => k.isInlined
    | _ => false
  let inlined := own.filter fun (s, _) => isInlined s
  let alternatives s := (inlined.find? fun (t, _) => t == s).map Prod.snd
  let kept := (own ++ repetitions).filter fun (s, _) => !(isInlined s)
  (kept.map fun (symbol, ps) =>
    { symbol
      productions :=
        (ps.flatMap fun p => inlineSteps alternatives p.weight p.steps).eraseDups }).toArray

/-- Repeats a step until it changes nothing, at most `n` times. -/
def settle [BEq α] (step : α → α) : Nat → α → α
  | 0, a => a
  | n + 1, a =>
    let b := step a
    if b == a then a else settle step n b

/-! ### Sets of terminals -/

/-- A set of terminals, by their numbers. -/
structure TerminalSet where
  bits : Nat
  deriving DecidableEq, Repr, Inhabited

namespace TerminalSet

def none : TerminalSet := ⟨0⟩

def single (t : Nat) : TerminalSet := ⟨1 <<< t⟩

def union (a b : TerminalSet) : TerminalSet := ⟨a.bits ||| b.bits⟩

def contains (a : TerminalSet) (t : Nat) : Bool := a.bits.testBit t

def isEmpty (a : TerminalSet) : Bool := a.bits == 0

/-- The members of a set that are below `n`. -/
def members (n : Nat) (a : TerminalSet) : List Nat := (List.range n).filter a.contains

instance : Hashable TerminalSet where
  hash a := mixHash (hash a.bits) (mixHash (hash (a.bits >>> 64)) (hash (a.bits >>> 128)))

end TerminalSet

/-! ### Items -/

structure ItemKey where
  owner : Nat
  weight : Int
  length : Nat
  rank : Int
  side : Option Side
  /-- Whether a part that has been read may pass roles on from inside. -/
  inherits : Bool
  before : List (Option Label × Option Role × Option Symbol)
  after : List Step
  deriving DecidableEq, Hashable

structure Item where
  /-- The number of the nonterminal that is built, counted from the first nonterminal. -/
  owner : Nat
  place : Nat
  weight : Int
  length : Nat
  /-- The rank and the side of the last step that has been read. -/
  rank : Int
  side : Option Side
  next : Option Nat
  afterNext : Option Nat
  steps : List Step
  /-- The item after the next symbol. -/
  ahead : Nat
  deriving Inhabited

/-- A grammar with numbers for its symbols, ready for the construction of tables. -/
structure Numbered where
  terminals : Array Terminal
  nonterminals : Array Nonterminal
  numbers : HashMap Symbol Nat
  passesRoles : Array Bool
  /-- The terminals that a symbol can start with. -/
  firsts : Array TerminalSet
  /-- For every nonterminal, the nonterminals that can stand first in it, with what can follow them;
  the flag tells whether that includes what follows the nonterminal itself. -/
  leading : Array (List (Nat × TerminalSet × Bool))
  /-- The items of the productions of every nonterminal, with nothing read yet. -/
  openings : Array (List Nat)
  items : Array Item
  start : Nat

namespace Numbered

def number (numbers : HashMap Symbol Nat) (s : Symbol) : Nat := numbers.getD s 0

/-- The terminals of some nonterminals, in order of appearance after the end of the text. -/
def terminalsOf (nonterminals : Array Nonterminal) : Array Terminal :=
  let symbols := nonterminals.toList.flatMap fun v => v.productions.flatMap fun p =>
    p.steps.filterMap fun s => match s.symbol with
      | .terminal t => some t
      | _ => none
  ((Terminal.finish :: symbols).eraseDups).toArray

def numbersOf (terminals : Array Terminal) (nonterminals : Array Nonterminal) :
    HashMap Symbol Nat :=
  let symbols := terminals.map Symbol.terminal ++ nonterminals.map Nonterminal.symbol
  symbols.toList.zipIdx.foldl (fun m (s, n) => m.insert s n) {}

def bringsRole (numbers : HashMap Symbol Nat) (terminalCount : Nat) (passes : Array Bool)
    (s : Step) : Bool :=
  s.symbol.isHidden && passes.getD (number numbers s.symbol - terminalCount) false

def passesRolesOf (numbers : HashMap Symbol Nat) (terminalCount : Nat)
    (nonterminals : Array Nonterminal) : Array Bool :=
  let step (passes : Array Bool) : Array Bool := nonterminals.map fun v =>
    v.productions.any fun p => p.steps.any fun s =>
      s.role.isSome || bringsRole numbers terminalCount passes s
  settle step (nonterminals.size + 1) (nonterminals.map fun _ => false)

def firstsOf (numbers : HashMap Symbol Nat) (terminalCount : Nat)
    (nonterminals : Array Nonterminal) : Array TerminalSet :=
  let own := (Array.range terminalCount).map TerminalSet.single
  let step (firsts : Array TerminalSet) : Array TerminalSet :=
    own ++ nonterminals.map fun v => v.productions.foldl (fun set p =>
      match p.steps with
      | [] => set
      | s :: _ => set.union (firsts.getD (number numbers s.symbol) .none)) .none
  settle step (nonterminals.size + 1) (own ++ nonterminals.map fun _ => TerminalSet.none)

/-- What stands first in the productions of a nonterminal: its number, and what follows it, if
anything. -/
def edgesOf (numbers : HashMap Symbol Nat) (terminalCount : Nat) (firsts : Array TerminalSet)
    (v : Nonterminal) : List (Nat × Option TerminalSet) :=
  (v.productions.filterMap fun p =>
    match p.steps with
    | [] => none
    | s :: rest =>
      let n := number numbers s.symbol
      if n < terminalCount then none
      else
        let follow := rest.head?.map fun (f : Step) => firsts.getD (number numbers f.symbol) .none
        some (n - terminalCount, follow)).eraseDups

/-- What is known about a nonterminal that can stand first: what follows it, and whether what
follows the whole can follow it. -/
abbrev Contexts := Array (Option (TerminalSet × Bool))

def addContext (cs : Contexts) (n : Nat) (set : TerminalSet) (passes : Bool) : Contexts :=
  cs.modify n fun
    | none => some (set, passes)
    | some (known, p) => some (known.union set, p || passes)

/-- The nonterminals that can stand first in a nonterminal. -/
def leadingOf (edges : Array (List (Nat × Option TerminalSet))) (n : Nat) :
    List (Nat × TerminalSet × Bool) :=
  let step (cs : Contexts) : Contexts :=
    (List.range edges.size).foldl (fun cs k =>
      match cs.getD k none with
      | none => cs
      | some (set, passes) => (edges.getD k []).foldl (fun cs (j, follow) =>
          match follow with
          | none => addContext cs j set passes
          | some f => addContext cs j f false) cs) cs
  let start := addContext (Array.replicate edges.size none) n .none true
  let settled := settle step (edges.size * 2) start
  settled.toList.zipIdx.filterMap fun (c, k) => c.map fun (set, passes) => (k, set, passes)

def keyOf (numbers : HashMap Symbol Nat) (terminalCount : Nat) (passes : Array Bool) (owner : Nat)
    (p : Production) (place : Nat) : ItemKey :=
  let before := p.steps.take place
  let inherits := before.any (bringsRole numbers terminalCount passes)
  { owner, weight := p.weight, length := p.steps.length, inherits
    rank := (before.getLast?.map Step.rank).getD 0, side := before.getLast?.bind Step.side
    before := before.map fun s => (s.label, s.role, if inherits then some s.symbol else none)
    after := p.steps.drop place }

/-- The items of one place: the number of each production's item, and the items with the productions
that stand for them. -/
def itemsAt (key : Nat → Production → ItemKey) (productions : List (Nat × Production))
    (firstNumber place : Nat) : Array (Option Nat) × Array (Nat × Nat × Production) :=
  let start : HashMap ItemKey Nat × Array (Option Nat) × Array (Nat × Nat × Production) :=
    ({}, #[], #[])
  let (_, numbers, found) := productions.zipIdx.foldl
    (fun (known, numbers, found) ((owner, p), k) =>
      if place > p.steps.length then (known, numbers.push none, found)
      else
        let key := key owner p
        match known[key]? with
        | some n => (known, numbers.push (some n), found)
        | none =>
          let n := firstNumber + found.size
          (known.insert key n, numbers.push (some n), found.push (k, owner, p)))
    start
  (numbers, found)

def itemsOf (numbers : HashMap Symbol Nat) (terminalCount : Nat) (passes : Array Bool)
    (productions : List (Nat × Production)) : Array Item × Array (Option Nat) :=
  let places := productions.foldl (fun n (_, p) => max n p.steps.length) 0 + 1
  let levels := ((List.range places).foldl (fun (levels, count) place =>
    let level := itemsAt (fun owner p => keyOf numbers terminalCount passes owner p place)
      productions count place
    (levels.push level, count + level.2.size)) (#[], 0)).1
  let items := levels.toList.zipIdx.flatMap fun ((_, found), place) =>
    let nextLevel := ((levels[place + 1]?).map Prod.fst).getD #[]
    found.toList.map fun (k, owner, p) =>
      let last := (p.steps.take place).getLast?
      let numberAt (n : Nat) := p.steps[n]?.map fun s => number numbers s.symbol
      ({ owner, place, weight := p.weight, length := p.steps.length
         rank := (last.map Step.rank).getD 0, side := last.bind Step.side
         next := numberAt place, afterNext := numberAt (place + 1), steps := p.steps
         ahead := (nextLevel.getD k none).getD 0 } : Item)
  (items.toArray, (levels[0]?.map Prod.fst).getD #[])

def ofRules (rules : List (Kind × Rule)) : Numbered :=
  let nonterminals := nonterminalsOf rules
  let terminals := terminalsOf nonterminals
  let numbers := numbersOf terminals nonterminals
  let passesRoles := passesRolesOf numbers terminals.size nonterminals
  let firsts := firstsOf numbers terminals.size nonterminals
  let edges := nonterminals.map (edgesOf numbers terminals.size firsts)
  let whole : Step :=
    { symbol := ((nonterminals[0]?).map Nonterminal.symbol).getD (.rule .program) }
  let productions :=
    nonterminals.toList.zipIdx.flatMap (fun (v, n) => v.productions.map fun p => (n, p))
      ++ [(nonterminals.size, { steps := [whole] })]
  let (items, openings) := itemsOf numbers terminals.size passesRoles productions
  let openingsOf (n : Nat) : List Nat :=
    (productions.zip openings.toList).filterMap fun ((o, _), i) => if o == n then i else none
  { terminals, nonterminals, numbers, passesRoles, firsts, items
    leading := (Array.range nonterminals.size).map (leadingOf edges)
    openings := (Array.range nonterminals.size).map openingsOf
    start := (openingsOf nonterminals.size).headD 0 }

end Numbered

end TestMigration.Syntax
