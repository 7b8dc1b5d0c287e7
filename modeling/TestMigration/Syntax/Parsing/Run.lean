import TestMigration.Syntax.Grammar.Automaton
import TestMigration.Syntax.Token
/-!
# Reading a text by the table

All ways of reading a text are followed side by side, token by token. What a token is depends on the
state that asks for it: a word is a keyword only where the keyword is expected, and adjacent tokens
are one terminal where that terminal is expected. A keyword that cannot go on after some symbols
have been closed is read as a name after all.

After each round the ways are compared. A way that is stuck is given up if another one is not, ways
that have come to the same state are merged, and heavier ones come first.
-/

namespace TestMigration.Syntax

open Std (HashMap)

/-!
### Derivations

A derivation says how a part of a text is built by the grammar. It refers to the text by the numbers
of its tokens: the first one that belongs to it, and the first one after it. Comments may stand
anywhere between the parts of a derivation.

Where a text has two derivations, the one with the higher weight is better. If the weights are
equal, the two are walked through side by side, and at the first difference the lower symbol is
better, or the one with fewer parts.
-/

inductive Derivation where
  | leaf (terminal first stop : Nat)
  | comment (first : Nat)
  | node (owner reduction first stop : Nat) (weight : Int) (parts : List Derivation)
  deriving Inhabited

namespace Derivation

def first : Derivation → Nat
  | leaf _ first _ | comment first | node _ _ first _ _ _ => first

def stop : Derivation → Nat
  | leaf _ _ stop | node _ _ _ stop _ _ => stop
  | comment first => first + 1

def weight : Derivation → Int
  | node _ _ _ _ weight _ => weight
  | leaf .. | comment _ => 0

def isComment : Derivation → Bool
  | comment _ => true
  | leaf .. | node .. => false

def parts : Derivation → List Derivation
  | node _ _ _ _ _ parts => parts
  | leaf .. | comment _ => []

def totalWeight (ds : List Derivation) : Int := ds.foldl (fun sum d => sum + d.weight) 0

def build (reduction : Nat) (r : Reduction) (parts : List Derivation) : Derivation :=
  node r.owner reduction ((parts.head?.map first).getD 0) ((parts.getLast?.map stop).getD 0)
    (r.weight + totalWeight parts) parts

/-- The place of a derivation's symbol among all symbols: the terminals first. -/
def symbol (terminalCount : Nat) : Derivation → Nat
  | comment _ => 0
  | leaf terminal _ _ => terminal
  | node owner .. => terminalCount + owner

/-- Whether two derivations build the same symbol from the same text with as many parts. -/
def resembles (a b : Derivation) : Bool :=
  match a, b with
  | leaf s f e, leaf t g i => s == t && f == g && e == i
  | comment f, comment g => f == g
  | node o _ f e _ ps, node p _ g i _ qs => o == p && f == g && e == i && ps.length == qs.length
  | _, _ => false

mutual

/-- The symbols of a derivation and its parts from the outside in, with the number of parts, before
those of `rest`. -/
def walk (terminalCount : Nat) (rest : List (Nat × Nat)) : Derivation → List (Nat × Nat)
  | comment _ => (0, 0) :: rest
  | leaf terminal _ _ => (terminal, 0) :: rest
  | node owner _ _ _ _ parts =>
    (terminalCount + owner, parts.length) :: walkAll terminalCount rest parts

def walkAll (terminalCount : Nat) (rest : List (Nat × Nat)) : List Derivation → List (Nat × Nat)
  | [] => rest
  | d :: ds => d.walk terminalCount (walkAll terminalCount rest ds)

end

/-- Whether the first of two walks is the worse one: higher at the first difference. -/
def isWorse : List (Nat × Nat) → List (Nat × Nat) → Bool
  | (s, m) :: xs, (t, n) :: ys =>
    if s == t && m == n then isWorse xs ys else t < s || (s == t && n < m)
  | _, _ => false

def prefersSecond (terminalCount : Nat) (ps qs : List Derivation) : Bool :=
  let p := totalWeight ps
  let q := totalWeight qs
  if p != q then p < q
  else
    isWorse ((0, ps.length) :: walkAll terminalCount [] ps)
      ((0, qs.length) :: walkAll terminalCount [] qs)

end Derivation

/-!
### Stacks that share their parts

While a text is read in several ways at once, each way has a stack of states with the derivations
between them. The stacks share what they have in common: a joint is a state at a place in the text,
and its links lead to the joints below. Where two ways come to the same state at the same place,
their stacks are merged into one joint with the links of both.

If two links of a joint lead to the same joint below with derivations that resemble each other, only
the one of higher weight is kept.
-/

structure Joint where
  state : Nat
  /-- The number of the next token. -/
  position : Nat
  weight : Int := 0
  /-- The joints below, with the derivations in between. -/
  links : List (Nat × Derivation) := []
  deriving Inhabited

inductive Progress where
  | active
  /-- It cannot go on with the next token. -/
  | stuck
  /-- It has been given up or has come to its end. -/
  | over
  deriving DecidableEq, Repr, Inhabited

/-- A way of reading: the joint on top of its stack. -/
structure Head where
  joint : Nat
  progress : Progress := .active
  deriving Inhabited

/-- The number of links that a joint can have. -/
def maxLinks : Nat := 8

/-- The number of ways down a stack that are followed at once. -/
def maxPaths : Nat := 64

structure Joints where
  all : Array Joint

namespace Joints

def joint (js : Joints) (n : Nat) : Joint := js.all.getD n default

def modify (js : Joints) (n : Nat) (f : Joint → Joint) : Joints := ⟨js.all.modify n f⟩

/-- Adds a joint on top of another one. -/
def push (js : Joints) (below : Nat) (d : Derivation) (state : Nat) : Joints × Nat :=
  let weight := (js.joint below).weight + d.weight
  let n := js.all.size
  (⟨js.all.push { state, position := d.stop, weight, links := [(below, d)] }⟩, n)

/-- Whether two joints are the same state at the same place. -/
def agree (js : Joints) (a b : Nat) : Bool :=
  (js.joint a).state == (js.joint b).state && (js.joint a).position == (js.joint b).position

def raise (js : Joints) (n : Nat) (weight : Int) : Joints :=
  js.modify n fun j => if weight > j.weight then { j with weight } else j

/-- Adds a link to a joint. If a link resembles it and leads to a joint that agrees with the one
below, that joint takes over the links instead. -/
def link : Nat → Joints → Nat → Nat × Derivation → Joints
  | 0, js, _, _ => js
  | n + 1, js, top, (below, d) =>
    let links := (js.joint top).links
    let weight := (js.joint below).weight + d.weight
    if below == top then js
    else
      match links.find? fun (b, e) => e.resembles d && (b == below || js.agree b below) with
      | some (b, e) =>
        if b != below then
          ((js.joint below).links.foldl (fun js l => link n js b l) js).raise top weight
        else if d.weight > e.weight then
          js.modify top fun j => { j with
            weight, links := j.links.map fun (c, f) =>
              if c == below && f.resembles d then (below, d) else (c, f) }
        else js
      | none =>
        if links.length ≥ maxLinks then js
        else (js.modify top fun j => { j with links := j.links ++ [(below, d)] }).raise top weight

def merge (js : Joints) (a b : Nat) : Joints :=
  (js.joint b).links.foldl (fun js l => link js.all.size js a l) js

/-! ### Looking down a stack -/

/-- A way down a stack: the joint reached, what has been passed, and how many parts are still to be
passed. Comments are passed, but are no parts. -/
structure Path where
  joint : Nat
  passed : List Derivation
  missing : Nat

def Path.follow (p : Path) (l : Nat × Derivation) : Path :=
  { joint := l.1, passed := l.2 :: p.passed
    missing := if l.2.isComment then p.missing else p.missing - 1 }

def collect (p : Path) : List (Nat × List (List Derivation)) → List (Nat × List (List Derivation))
  | [] => [(p.joint, [p.passed])]
  | (j, ds) :: rest =>
    if j == p.joint then (j, ds ++ [p.passed]) :: rest else (j, ds) :: collect p rest

/-- All ways down from a joint past a number of parts, by the joints they end at. Paths go down at
the same pace; the branches of a fork come after the others. -/
def descend (js : Joints) : Nat → List Path → List (Nat × List (List Derivation)) →
    List (Nat × List (List Derivation))
  | 0, _, found => found
  | n + 1, paths, found =>
    if paths.isEmpty then found
    else
      let (ended, others) := paths.partition fun p => p.missing == 0
      let found := ended.foldl (fun found p => collect p found) found
      let first := others.filterMap fun p => ((js.joint p.joint).links.head?).map p.follow
      let forks := others.flatMap fun p => ((js.joint p.joint).links.drop 1).map p.follow
      descend js n ((first ++ forks).take maxPaths) found

def below (js : Joints) (joint parts : Nat) : List (Nat × List (List Derivation)) :=
  descend js (js.all.size + 1) [{ joint, passed := [], missing := parts }] []

/-- All that has been passed on the ways down to the bottom. -/
def toBottom (js : Joints) : Nat → List Path → List (List Derivation)
  | 0, _ => []
  | n + 1, paths =>
    if paths.isEmpty then []
    else
      let (ended, others) := paths.partition fun p => (js.joint p.joint).links.isEmpty
      ended.map Path.passed
        ++ toBottom js n (others.flatMap fun p => (js.joint p.joint).links.map p.follow)

end Joints

/-! ### Terminals -/

/-- The next terminal as a state sees it. -/
structure Lookahead where
  /-- The number of the terminal; nothing for a comment. -/
  terminal : Option Nat
  first : Nat
  stop : Nat
  /-- Whether a keyword was expected in place of a name. -/
  isKeyword : Bool := false

/-- What reads a text: the table and the tokens. -/
structure Reader where
  table : ParseTable
  tokens : Array Token

namespace Reader

def actions (r : Reader) (state terminal : Nat) : List Action :=
  ((r.table.rows.getD state default).actions).getD terminal []

def expects (r : Reader) (state terminal : Nat) : Bool := !(r.actions state terminal).isEmpty

def expected? (r : Reader) (state : Nat) (t : Terminal) : Option Nat :=
  (r.table.numbers[t]?).filter (r.expects state)

/-- The number of a terminal; an unknown one has a number that no state expects. -/
def number (r : Reader) (t : Terminal) : Nat := r.table.numbers.getD t r.table.terminals.size

/-- The text of `n` tokens, if there is nothing between them. -/
def glued? (r : Reader) (i : Nat) : Nat → Option String
  | 0 => some ""
  | 1 => r.tokens[i]?.map Token.text
  | n + 2 =>
    match r.tokens[i]?, r.tokens[i + 1]? with
    | some t, some u =>
      if t.extent.stop == u.extent.start then (r.glued? (i + 1) (n + 1)).map (t.text ++ ·) else none
    | _, _ => none

/-- The words and marks that terminals of several tokens start with. -/
def startsLonger (text : String) : Bool := text == ">" || text == "@" || text == "non"

def longer? (r : Reader) (state i : Nat) : Option Lookahead :=
  [4, 3, 2].findSome? fun n => do
    let text ← r.glued? i n
    let t ← r.expected? state (.fixed text)
    return { terminal := some t, first := i, stop := i + n }

def single (r : Reader) (state i : Nat) (token : Token) : Lookahead :=
  let of (t : Terminal) : Lookahead := { terminal := some (r.number t), first := i, stop := i + 1 }
  match token.kind with
  | .comment => { terminal := none, first := i, stop := i + 1 }
  | .word =>
    match r.expected? state (.fixed token.text) with
    | some t => { terminal := some t, first := i, stop := i + 1, isKeyword := true }
    | none => of .name
  | .integer | .fraction | .hexFraction => of .number
  | .char => of .character
  | .quote => of .quote
  | .blockQuote => of .blockQuote
  | .fragment => of .fragment
  | .escape => of .escape
  | .interpolation => of .interpolation
  | .symbol => of (.fixed token.text)

def lookahead (r : Reader) (state i : Nat) : Lookahead :=
  match r.tokens[i]? with
  | none => { terminal := some 0, first := i, stop := i }
  | some token =>
    match if startsLonger token.text then r.longer? state i else none with
    | some l => l
    | none => r.single state i token

end Reader

/-! ### Ways of reading -/

/-- All ways of reading that are being followed, and the best complete derivation. -/
structure Ways where
  joints : Joints
  heads : Array Head
  complete : Option (List Derivation) := none

/-- The number of ways that are followed from one round to the next. -/
def maxWays : Nat := 6

/-- The number of ways within a round beyond which no further one is added. -/
def waysInRound : Nat := 10

namespace Ways

def head (w : Ways) (n : Nat) : Head := w.heads.getD n default

def top (w : Ways) (n : Nat) : Joint := w.joints.joint (w.head n).joint

def setProgress (w : Ways) (n : Nat) (progress : Progress) : Ways :=
  { w with heads := w.heads.modify n fun h => { h with progress } }

def push (w : Ways) (n : Nat) (d : Derivation) (state : Nat) : Ways :=
  let (joints, joint) := w.joints.push (w.head n).joint d state
  { w with joints, heads := w.heads.setIfInBounds n { joint } }

def canMerge (w : Ways) (a b : Head) : Bool :=
  a.progress == .active && b.progress == .active && w.joints.agree a.joint b.joint

def add (w : Ways) (apart : Nat) (h : Head) : Ways :=
  match (List.range w.heads.size).find? fun n => n != apart && w.canMerge (w.head n) h with
  | some n => { w with joints := w.joints.merge (w.head n).joint h.joint }
  | none => { w with heads := w.heads.push h }

/-- Parts without the comments at their end, and these comments. -/
def splitComments (ds : List Derivation) : List Derivation × List Derivation :=
  let comments := (ds.reverse.takeWhile Derivation.isComment).reverse
  (ds.take (ds.length - comments.length), comments)

def bestParts (terminalCount : Nat) : List (List Derivation) → List Derivation × List Derivation
  | [] => ([], [])
  | ds :: rest => rest.foldl (fun best ds =>
      let other := splitComments ds
      if Derivation.prefersSecond terminalCount best.1 other.1 then other else best)
      (splitComments ds)

/-- Closes a symbol on a way; the results are new ways. -/
def reduce (r : Reader) (way reduction : Nat) (w : Ways) : Ways :=
  match r.table.reductions[reduction]? with
  | none => w
  | some red =>
    (w.joints.below (w.head way).joint red.length).foldl (fun w (joint, alternatives) =>
      let state := (w.joints.joint joint).state
      match ((r.table.rows.getD state default).gotos).getD red.owner none with
      | none => w
      | some target =>
        if w.heads.size > waysInRound then w
        else
          let (parts, comments) := bestParts r.table.terminals.size alternatives
          let (joints, n) := w.joints.push joint (.build reduction red parts) target
          let (joints, n) := comments.foldl (fun (js, n) c => js.push n c target) (joints, n)
          { w with joints }.add way { joint := n }) w

def wholeParts (passed : List Derivation) : List Derivation :=
  passed.flatMap fun d => match d with
    | .node _ _ _ _ _ parts => parts
    | d => [d]

def accept (r : Reader) (way : Nat) (w : Ways) : Ways :=
  let all := w.joints.toBottom (w.joints.all.size + 1)
    [{ joint := (w.head way).joint, passed := [], missing := 0 }]
  let complete := all.foldl (fun best passed =>
    let parts := wholeParts passed
    match best with
    | none => some parts
    | some b =>
      if Derivation.prefersSecond r.table.terminals.size b parts then some parts else some b)
    w.complete
  { w with complete }.setProgress way .over

inductive Outcome where
  /-- The terminal has been read, or the way has ended. -/
  | done
  /-- Symbols have been closed; the number is that of the last new way, if there is one. -/
  | closed (last : Option Nat)
  | nothing

def act (r : Reader) (way : Nat) (l : Lookahead) (terminal : Nat) :
    List Action → Ways → Outcome → Ways × Outcome
  | [], w, outcome => (w, outcome)
  | .shift _ true :: rest, w, outcome => act r way l terminal rest w outcome
  | .shift target false :: _, w, _ =>
    (w.push way (.leaf terminal l.first l.stop) target, .done)
  | .accept :: _, w, _ => (w.accept r way, .done)
  | .reduce reduction :: rest, w, outcome =>
    let count := w.heads.size
    let w := w.reduce r way reduction
    let last := if w.heads.size > count then some count
      else match outcome with
        | .closed last => last
        | _ => none
    act r way l terminal rest w (.closed last)

/-- Moves a new way to the place of the one it came from. -/
def replace (w : Ways) (way last : Nat) : Ways :=
  { w with heads := (w.heads.setIfInBounds way (w.head last)).eraseIdxIfInBounds last }

/-- Follows a way until it has read the next token. -/
def advance (r : Reader) (way : Nat) : Nat → Lookahead → Ways → Ways
  | 0, _, w => w.setProgress way .stuck
  | n + 1, l, w =>
    let joint := w.top way
    match l.terminal with
    | none => w.push way (.comment l.first) joint.state
    | some terminal =>
      let (w, outcome) := w.act r way l terminal (r.actions joint.state terminal) .nothing
      match outcome with
      | .done => w
      | .closed (some last) => advance r way n l (w.replace way last)
      | .closed none => w.setProgress way .over
      | .nothing =>
        let name := r.number .name
        if l.isKeyword && r.expects joint.state name then
          advance r way n { l with terminal := some name, isKeyword := false } w
        else
          let other := r.lookahead joint.state joint.position
          match other.terminal with
          | some t =>
            if t != terminal && r.expects joint.state t then advance r way n other w
            else w.setProgress way .stuck
          | none => w.setProgress way .stuck

/-- Follows a way until it is further than the others. -/
def pursue (r : Reader) (way : Nat) : Nat → Nat → Ways → Nat × Ways
  | 0, furthest, w => (furthest, w)
  | n + 1, furthest, w =>
    if (w.head way).progress != .active then (furthest, w)
    else
      let joint := w.top way
      let w := w.advance r way (32 * (r.tokens.size + 8)) (r.lookahead joint.state joint.position)
      let position := (w.top way).position
      if position > furthest || (way > 0 && position == furthest) then (position, w)
      else pursue r way n furthest w

/-- Follows every way, from the one with the given number on. -/
def pursueAll (r : Reader) : Nat → Nat → Nat → Ways → Nat × Ways
  | 0, _, furthest, w => (furthest, w)
  | n + 1, way, furthest, w =>
    if way ≥ w.heads.size then (furthest, w)
    else
      let (furthest, w) := w.pursue r way (r.tokens.size + 2) furthest
      pursueAll r n (way + 1) furthest w

/-- Puts a way among those that are kept, which are in order. -/
def settleHead (joints : Joints) (h : Head) : List Head → List Head → Joints × List Head
  | kept, [] => (joints, kept.reverse ++ [h])
  | kept, k :: rest =>
    let canMerge := k.progress == .active && h.progress == .active && joints.agree k.joint h.joint
    if k.progress == .active && h.progress != .active then (joints, kept.reverse ++ k :: rest)
    else if k.progress != .active && h.progress == .active then settleHead joints h kept rest
    else if canMerge then (joints.merge k.joint h.joint, kept.reverse ++ k :: rest)
    else if (joints.joint h.joint).weight > (joints.joint k.joint).weight then
      settleHead joints k (h :: kept) rest
    else settleHead joints h (k :: kept) rest

/-- Compares all ways and keeps the best. -/
def condense (w : Ways) : Ways :=
  let (joints, heads) := (w.heads.toList.filter fun h => h.progress != .over).foldl
    (fun (joints, kept) h => settleHead joints h [] kept) (w.joints, [])
  { w with joints, heads := (heads.take maxWays).toArray }

/-- Reads on until no way is left. -/
def finish (r : Reader) : Nat → Nat → Ways → Option (List Derivation)
  | 0, _, _ => none
  | n + 1, furthest, w =>
    if w.heads.isEmpty then w.complete
    else
      let (furthest, w) := w.pursueAll r 64 0 furthest
      let w := w.condense
      if !w.heads.isEmpty && w.heads.all fun h => h.progress == .stuck then none
      else finish r n furthest w

end Ways

def Reader.derive? (r : Reader) : Option (List Derivation) :=
  let bottom : Joint := { state := r.table.start, position := 0 }
  Ways.finish r (2 * r.tokens.size + 64) 0 { joints := ⟨#[bottom]⟩, heads := #[{ joint := 0 }] }

end TestMigration.Syntax
