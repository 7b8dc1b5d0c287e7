import TestMigration.Action.Value
/-!
# Actions

The steps of a test. A body is a list of actions; a branch and a probe hold bodies in turn. Every
action knows the lines it came from.
-/

namespace TestMigration.Action

/-- A lookup of one element, or of all that match. -/
structure Lookup where
  locator : Locator
  ref : ElementRef
  provenance : Provenance
  multiple : Bool := false
  parent : Option ElementRef := none
  /-- Used where it stands: the lookup has no statement of its own. -/
  inline : Bool := false
  deriving BEq, Repr

/-- The choice of one of several located elements. -/
structure Pick where
  source : ElementRef
  index : Value
  ref : ElementRef
  provenance : Provenance
  inline : Bool := false
  deriving BEq, Repr

structure Interaction where
  element : ElementRef
  op : String
  args : List Value
  provenance : Provenance
  deriving BEq, Repr

/-- An explicit wait; only conditions on elements have a target. -/
structure Wait where
  condition : String
  seconds : Float
  provenance : Provenance
  target : Option ElementRef := none
  args : List Value := []
  deriving BEq, Repr

structure Assertion where
  kind : String
  actual : Value
  provenance : Provenance
  expected : Option Value := none
  message : Option Value := none
  deriving BEq, Repr

/-- A script run in the page; its result may be bound. -/
structure ScriptRun where
  code : String
  args : List Value
  provenance : Provenance
  bind : String := ""
  declare : Bool := true
  deriving BEq, Repr

/-- A call of a project method as a statement; its result may be bound. -/
structure Delegation where
  call : Call
  provenance : Provenance
  bind : String := ""
  declare : Bool := true
  deriving BEq, Repr

structure Binding where
  name : String
  value : Value
  provenance : Provenance
  declare : Bool := true
  deriving BEq, Repr

end Action

open TestMigration.Action

inductive Action where
  | navigate (url : Value) (provenance : Provenance)
  | locate (l : Lookup)
  | pick (p : Pick)
  | interact (i : Interaction)
  | wait (w : Wait)
  | assert (a : Assertion)
  | script (s : ScriptRun)
  | delegate (d : Delegation)
  | bind (b : Binding)
  | branch (condition : Value) (thenBody elseBody : List Action) (provenance : Provenance)
  | probe (body fallback : List Action) (provenance : Provenance)
  | ret (value : Option Value) (provenance : Provenance)
  | pause (millis : Value) (provenance : Provenance)
  | command (name : String) (args : List Value) (provenance : Provenance)
  | verbatim (text reason : String) (provenance : Provenance)

namespace Action

instance : Inhabited Action := ⟨.verbatim "" "" default⟩

deriving instance BEq, Repr for Action

def provenance : Action → Provenance
  | navigate _ p | branch _ _ _ p | probe _ _ p | ret _ p | pause _ p | command _ _ p
  | verbatim _ _ p => p
  | locate l => l.provenance
  | pick p => p.provenance
  | interact i => i.provenance
  | wait w => w.provenance
  | assert a => a.provenance
  | script s => s.provenance
  | delegate d => d.provenance
  | bind b => b.provenance

/-- The variable an action binds; empty if it binds none. -/
def boundName : Action → String
  | bind b => b.name
  | script s => s.bind
  | delegate d => d.bind
  | locate l => if l.inline then "" else l.ref.name
  | pick p => if p.inline then "" else p.ref.name
  | _ => ""

def declares : Action → Bool
  | bind b => b.declare
  | script s => s.declare
  | delegate d => d.declare
  | _ => true

def isWait : Action → Bool
  | wait _ => true
  | _ => false

end Action

end TestMigration
