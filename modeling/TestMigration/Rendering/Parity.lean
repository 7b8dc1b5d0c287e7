import TestMigration.Rendering.Session
import TestMigration.Text.Shown
/-!
# Checks of the finished file

The text of a finished file is compared with the trace of its rendering. Three things are checked,
in this order, and the first one that fails refuses the file:

* **waits** – as many waits as were come across have a fragment that occurs in the text;
* **locators** – every fragment of a locator is built from the template of its own strategy and
  occurs in the text;
* **order** – the fragments of each body occur in the text one after the other, in the order of the
  source.
-/

namespace TestMigration.Rendering

open TestMigration.Action Text Profile

inductive Finding where
  | count (n : Nat)
  | lineNumbers (ns : List Nat)
  | places (ps : List String)
  deriving DecidableEq, Repr

def Finding.document : Finding → Document
  | count n => .int n
  | lineNumbers ns => .list (ns.map fun n => .int (Int.ofNat n))
  | places ps => Document.texts ps

def Finding.shown : Finding → String
  | count n => toString n
  | lineNumbers ns => "[" ++ join ", " (ns.map toString) ++ "]"
  | places ps => shownList ps

structure GateResult where
  name : String
  passed : Bool
  findings : Table String Finding
  deriving Repr

def GateResult.details (r : GateResult) : String :=
  "\x7b" ++ join ", " (r.findings.map fun (name, f) => Text.shown name ++ ": " ++ f.shown) ++ "\x7d"

/-! ### Waits -/

def waitGate (text : String) (s : Session) : GateResult :=
  let waits := s.trace.filter (·.kind == .wait)
  let (present, missing) := waits.partition fun e => occursIn e.fragment text
  { name := "wait_parity", passed := s.waits == present.length
    findings :=
      [("expected", .count s.waits), ("found", .count present.length),
       ("missing", .lineNumbers (missing.map (·.provenance.startLine)))] }

/-! ### Locators -/

def stringLiteral? : Value → Option String
  | .literal l => if l.kind = .string then some l.value.plain else none
  | _ => none

/-- The texts that the fragment of a locator has to contain: all of it if the value is known, and
otherwise what the template adds. -/
def expectedParts (p : Profile) (l : Locator) (scope : String) : List String :=
  let mark := p.phrases.quote
  match Table.get? l.strategy p.locators.strategies with
  | none => []
  | some template =>
    match template.shape, stringLiteral? l.value with
    | .expression e, some s => [fill e [("scope", scope), ("value", quote s mark)]]
    | .expression e, none => (splitOn "$value" (replace "$scope" scope e)).filter (!·.isEmpty)
    | .selector s, some v =>
      [fill p.locators.locate
        [("scope", scope),
          ("selector", quote (replace "$value" (escapeFor template.escape v) s) mark)]]
    | .selector s, none =>
      let (before, after) := partition "$value" s
      ([before, after].filter (!·.isEmpty)).map fun part => quote part mark

/-- Whether a fragment is not what its locator asks for. -/
def mismatches (p : Profile) (e : TraceEntry) (l : Locator) : Bool :=
  let expected := expectedParts p l e.scope
  expected.isEmpty || expected.any fun part => !occursIn part e.fragment

def locatorGate (p : Profile) (text : String) (s : Session) : GateResult :=
  let entries := s.trace.filterMap fun e =>
    if e.kind = .locator then e.locator.map fun l => (e, l) else none
  let place (e : TraceEntry × Locator) : String :=
    e.2.strategy ++ "@" ++ toString e.1.provenance.startLine
  let mismatched := (entries.filter fun (e, l) => mismatches p e l).map place
  let missing := (entries.filter fun e => !occursIn e.1.fragment text).map place
  { name := "locator_fidelity", passed := mismatched.isEmpty && missing.isEmpty
    findings :=
      [("checked", .count entries.length), ("mismatched", .places mismatched),
       ("missing", .places missing)] }

/-! ### Order -/

/-- The first fragment that is not found behind the one before it, or goes back in the source. -/
def firstMisplaced (text : List Char) : Nat → Nat → List TraceEntry → Option TraceEntry
  | _, _, [] => none
  | lastLine, start, e :: rest =>
    if e.provenance.startLine < lastLine then some e
    else match findFrom e.fragment.toList text start with
      | none => some e
      | some i => firstMisplaced text e.provenance.startLine (i + 1) rest

def bodyEntries (unitName : String) (trace : List TraceEntry) : Table String (List TraceEntry) :=
  (trace.filter fun e => e.kind == .action && e.provenance.unitName == unitName).foldl
    (fun bodies e => Table.put e.body ((Table.get? e.body bodies).getD [] ++ [e]) bodies) []

/-- The fragments of each body stand in its order. -/
def orderGate (unitName text : String) (s : Session) : GateResult :=
  let bodies := bodyEntries unitName s.trace
  let misplaced := bodies.filterMap fun (name, entries) =>
    (firstMisplaced text.toList 0 0 entries).map fun e =>
      name ++ "@" ++ toString e.provenance.startLine
  { name := "order_parity", passed := misplaced.isEmpty
    findings := [("bodies", .count bodies.length), ("out_of_order", .places misplaced)] }

/-! ### All of them -/

def gates (env : Env) (text : String) (s : Session) : List GateResult :=
  [waitGate text s, locatorGate env.profile text s, orderGate env.unit.unitName text s]

/-- The results of the checks; the first that fails refuses the unit. -/
def runGates (env : Env) (text : String) (s : Session) : Except Refusal (List GateResult) :=
  let results := gates env text s
  match results.find? (!·.passed) with
  | some r => .error { fault := .gate r.name r.details, unitName := env.unit.unitName }
  | none => .ok results

end TestMigration.Rendering
