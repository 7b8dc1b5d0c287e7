import TestMigration.Syntax.Parsing.Run
import TestMigration.Syntax.Basic
/-!
# Nodes

What is seen of a derivation: a node for every kind that has one, with its parts in their roles. The
parts of a hidden symbol belong to the node around it, and if the hidden symbol has a role there, so
has each of them. Comments are nodes too.

A node has the stretch of text from its first token to its last, so its text may contain blanks and
comments, but starts and ends with neither.

Everything that reads a source takes its tokens and its nodes from a `Parser`. A parser never fails:
what does not fit shows in the nodes (`Node.unfit`).
-/

namespace TestMigration.Syntax

/-- A node, with the numbers of its first token and of the first one after it. -/
inductive Node where
  | mk (label : Label) (first stop : Nat) (parts : List (Option Role × Node))

namespace Node

def label : Node → Label
  | mk label _ _ _ => label

def first : Node → Nat
  | mk _ first _ _ => first

/-- The number of the first token after a node. -/
def stop : Node → Nat
  | mk _ _ stop _ => stop

def parts : Node → List (Option Role × Node)
  | mk _ _ _ parts => parts

def isKind (k : Kind) (n : Node) : Bool := n.label == .kind k

def isComment (n : Node) : Bool := n.label == .comment

/-- The keyword, operator or bracket that a node is; empty if it is none. -/
def word (n : Node) : String :=
  match n.label with
  | .terminal (.fixed text) => text
  | _ => ""

def part? (n : Node) (role : Role) : Option Node :=
  (n.parts.find? fun (r, _) => r == some role).map Prod.snd

def partsIn (n : Node) (role : Role) : List Node :=
  (n.parts.filter fun (r, _) => r == some role).map Prod.snd

def partOf? (n : Node) (k : Kind) : Option Node :=
  (n.parts.find? fun (_, m) => m.isKind k).map Prod.snd

/-- The parts that are more than marks, comments included. -/
def named (n : Node) : List Node :=
  (n.parts.filter fun (_, m) => m.label.isNamed).map Prod.snd

/-- The parts that are more than marks and comments. -/
def items (n : Node) : List Node := n.named.filter fun m => !m.isComment

mutual

def depth : Node → Nat
  | mk _ _ _ parts => depthIn parts + 1

/-- How deep the deepest of several nodes nests. -/
def depthIn : List (Option Role × Node) → Nat
  | [] => 0
  | (_, n) :: rest => max n.depth (depthIn rest)

end

end Node

/-! ### From derivations to nodes -/

mutual

/-- The nodes that are seen of a derivation; a label replaces its own one. -/
def Derivation.nodes (t : ParseTable) (label : Option Label) :
    Derivation → List (Option Role × Node)
  | .comment first => [(none, .mk .comment first (first + 1) [])]
  | .leaf terminal first stop =>
    let own := Label.terminal (t.terminals.getD terminal .finish)
    [(none, .mk (label.getD own) first stop [])]
  | .node owner reduction first stop _ parts =>
    let shape := ((t.reductions[reduction]?).map Reduction.parts).getD []
    let inner := Derivation.nodesOfAll t shape parts
    match label, t.nonterminals[owner]? with
    | some l, _ => [(none, .mk l first stop inner)]
    | none, some (.rule k) =>
      if k.isHidden then inner else [(none, .mk (.kind k) first stop inner)]
    | none, _ => inner

def Derivation.nodesOfAll (t : ParseTable) (shape : List (Option Label × Option Role)) :
    List Derivation → List (Option Role × Node)
  | [] => []
  | d :: rest =>
    if d.isComment then d.nodes t none ++ Derivation.nodesOfAll t shape rest
    else
      let (label, role) := shape.headD (none, none)
      let own := d.nodes t label
      let own := if role.isSome then own.map fun (_, n) => (role, n) else own
      own ++ Derivation.nodesOfAll t (shape.drop 1) rest

end

def Reader.unit? (r : Reader) : Option Node :=
  r.derive?.map fun parts =>
    .mk (.kind .program) 0 r.tokens.size (Derivation.nodesOfAll r.table [] parts)

/-! ### Texts and places -/

/-- The characters of a text and its tokens. -/
structure Source where
  characters : Array Char
  tokens : Array Token

def Source.extent (s : Source) (n : Node) : Extent :=
  { start := ((s.tokens[n.first]?).map fun t => t.extent.start).getD {}
    stop := ((s.tokens[n.stop - 1]?).map fun t => t.extent.stop).getD {} }

def Source.text (s : Source) (n : Node) : String :=
  let e := s.extent n
  .ofList (s.characters.extract e.start.offset e.stop.offset).toList

/-- The lines and the first column of a node. -/
def Source.span (s : Source) (n : Node) : Span :=
  let e := s.extent n
  { startLine := e.start.line, endLine := e.stop.line, startColumn := e.start.column }

/-! ### Parsers -/

/-- What a parser makes of a text: its tokens, and the node of all of it. -/
structure Parsed where
  tokens : Array Token
  root : Node

/-- A parser of the source language. Every text has a node: what does not fit is in it as an error,
and a token that would make it fit is put in and marked. -/
structure Parser where
  parse : String → Parsed

/-- The parser of the grammar. It does not recover: a text without a derivation is one error. -/
def Parser.builtin : Parser where
  parse text :=
    let tokens := (tokensOf text.toList).toArray
    let unit := Reader.unit? { table := parseTable, tokens }
    { tokens, root := unit.getD (.mk .error 0 tokens.size []) }

/-- Whether a node is an error or has been put in. -/
def Source.isUnfit (s : Source) (n : Node) : Bool :=
  n.label == .error || n.parts.isEmpty && (s.tokens[n.first]?).any Token.missing

mutual

/-- The outermost nodes that are errors or have been put in, in the order of the text. -/
def Node.unfit (s : Source) : Node → List Node
  | .mk label first stop parts =>
    if s.isUnfit (.mk label first stop parts) then [.mk label first stop parts]
    else Node.unfitIn s parts

def Node.unfitIn (s : Source) : List (Option Role × Node) → List Node
  | [] => []
  | (_, n) :: rest => n.unfit s ++ Node.unfitIn s rest

end

end TestMigration.Syntax
