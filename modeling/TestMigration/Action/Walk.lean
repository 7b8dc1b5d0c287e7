import TestMigration.Action.Basic
/-!
# Walks over actions and values

All parts of a value, all actions of a body with those inside of branches and probes, and all calls
that occur anywhere in a body. The order is that of the source: a whole before its parts, and the
parts from left to right.
-/

namespace TestMigration.Action

mutual

def Value.parts : Value → List Value
  | .literal l => [.literal l]
  | .variable name => [.variable name]
  | .driver => [.driver]
  | .element ref => [.element ref]
  | .elementQuery ref query none => [.elementQuery ref query none]
  | .elementQuery ref query (some arg) => .elementQuery ref query (some arg) :: arg.parts
  | .pageQuery query => [.pageQuery query]
  | .not operand => .not operand :: operand.parts
  | .binary op left right => .binary op left right :: (left.parts ++ right.parts)
  | .contains haystack needle => .contains haystack needle :: (haystack.parts ++ needle.parts)
  | .call (.mk id targetType method args style receiver sourceText) =>
    .call (.mk id targetType method args style receiver sourceText) :: partsOf args
  | .script code args => .script code args :: partsOf args
  | .construct typeName args => .construct typeName args :: partsOf args
  | .verbatim text => [.verbatim text]

def partsOf : List Value → List Value
  | [] => []
  | v :: rest => v.parts ++ partsOf rest

end

def Value.call? : Value → Option Call
  | .call c => some c
  | _ => none

def values : Action → List Value
  | navigate url _ => [url]
  | locate l => [l.locator.value]
  | pick p => [p.index]
  | interact i => i.args
  | wait w => w.args
  | command _ args _ => args
  | assert a => a.actual :: (a.expected.toList ++ a.message.toList)
  | script s => s.args
  | delegate d => [.call d.call]
  | bind b => [b.value]
  | branch condition _ _ _ => [condition]
  | ret value _ => value.toList
  | pause millis _ => [millis]
  | probe .. | verbatim .. => []

mutual

def nested : Action → List Action
  | branch condition thenBody elseBody p =>
    branch condition thenBody elseBody p :: (all thenBody ++ all elseBody)
  | probe body fallback p => probe body fallback p :: (all body ++ all fallback)
  | action => [action]

/-- All actions of a body, also inside of branches and probes. -/
def all : List Action → List Action
  | [] => []
  | a :: rest => a.nested ++ all rest

end

def calls (body : List Action) : List Call :=
  (all body).flatMap fun a => (partsOf a.values).filterMap Value.call?

def count (p : Action → Bool) (body : List Action) : Nat := (all body).countP p

/-- The variables that a body declares twice or assigns. -/
def mutableNames (body : List Action) : List String :=
  let bound := (all body).filter (·.boundName != "")
  let declared := (bound.filter declares).map boundName
  let assigned := (bound.filter (!·.declares)).map boundName
  assigned.foldl (fun names n => insertNew n names)
    ((declared.filter fun n => declared.count n > 1).foldl (fun names n => insertNew n names) [])

end TestMigration.Action
