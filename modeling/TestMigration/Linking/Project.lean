import TestMigration.Model.Basic
/-!
# The names of a project

What a type name means depends on the unit that uses it: an import can say it, or the package, or
there may be only one unit of that name in the whole project. Which unit a name leads to, and which
method a call leads to, is decided here; a call leads to the method of its target type, or of the
nearest superclass that has one.
-/

namespace TestMigration.Linking

open TestMigration.Action Text

/-!
### What keeps units from being linked

A name that could mean several things, a method that does not exist, a call into a unit that was not
read, and methods that call each other in a circle. One issue is enough to stop a run, but all of
them are collected.
-/

/-- Why units cannot be linked. -/
inductive Cause where
  | ambiguousType (name : String) (candidates : List String)
  /-- A call that several methods of one class match. -/
  | overloads (source : String) (count : Nat) (owner method : String) (arity : Nat)
  | noMethod (source owner method : String) (arity : Nat)
  /-- A call into a unit that could not be read. -/
  | unread (source targetType unitName : String)
  /-- Methods that call each other in a circle, the first repeated at the end. -/
  | cycle (keys : List MethodKey)
  deriving DecidableEq, Repr

def Cause.message : Cause → String
  | ambiguousType name candidates => "type '" ++ name ++ "' is ambiguous: " ++ join ", " candidates
  | overloads source count owner method arity =>
    "'" ++ source ++ "' matches " ++ toString count ++ " overloads of " ++ owner ++ "." ++ method
      ++ "/" ++ toString arity
  | noMethod source owner method arity =>
    "'" ++ source ++ "' does not resolve: no method " ++ owner ++ "." ++ method ++ "/"
      ++ toString arity
  | unread source targetType unitName =>
    "'" ++ source ++ "' targets '" ++ targetType ++ "', which failed to parse (" ++ unitName ++ ")"
  | cycle keys => "delegate cycle: " ++ join " -> " (keys.map MethodKey.text)

inductive IssueKind where
  | ambiguous
  | unresolved
  | cycle
  deriving DecidableEq, Repr

def IssueKind.word : IssueKind → String
  | .ambiguous => "ambiguous"
  | .unresolved => "unresolved"
  | .cycle => "cycle"

def Cause.kind : Cause → IssueKind
  | ambiguousType .. | overloads .. => .ambiguous
  | noMethod .. | unread .. => .unresolved
  | cycle _ => .cycle

/-- The position of a line; line zero is none. -/
def linePosition (line : Nat) : Option Position := if line == 0 then none else some { line }

/-- One issue: the unit it is reported for, and where. -/
structure Issue where
  unitName : String
  line : Nat
  cause : Cause
  deriving DecidableEq, Repr

def Issue.diagnostic (i : Issue) : Diagnostic :=
  { severity := .error, unitName := i.unitName, message := i.cause.message
    position := linePosition i.line, code := "link_" ++ i.cause.kind.word }

/-- The units of a project, in the order of their names. -/
structure Project where
  units : List SourceUnit

/-- Units in the order of their names. -/
def Project.ofUnits (units : List SourceUnit) : Project :=
  { units := sortBy (fun a b => textLe a.unitName b.unitName) units }

/-- What a type name leads to. -/
inductive TypeReading where
  | found (unit : SourceUnit)
  | missing
  | ambiguous (candidates : List SourceUnit)

namespace Project

/-- The unit of a qualified name; of several the last one. -/
def qualified? (p : Project) (name : String) : Option SourceUnit :=
  p.units.reverse.find? (·.qualifiedName == name)

def imported? (p : Project) (simple : String) (imported : String) : Option SourceUnit :=
  if startsWith "static " imported then none
  else
    let exact := if endsWith ("." ++ simple) imported then p.qualified? imported else none
    exact <|>
      if endsWith ".*" imported then
        p.qualified? (String.ofList (imported.toList.take (imported.length - 2)) ++ "." ++ simple)
      else none

/-- The unit that a type name means short of the whole project: by its qualified name, as the unit
itself, by an import, or in the same package. -/
def near? (p : Project) (typeName : String) (u : SourceUnit) : Option SourceUnit :=
  let simple := afterLast '.' typeName
  (if occursIn "." typeName then p.qualified? typeName else none)
    <|> (if simple == u.simpleName then some u else none)
    <|> u.imports.findSome? (p.imported? simple)
    <|> (if u.package == "" then none else p.qualified? (u.package ++ "." ++ simple))

/-- What a type name means in a unit. -/
def resolveType (p : Project) (typeName : String) (u : SourceUnit) : TypeReading :=
  match p.near? typeName u with
  | some v => .found v
  | none =>
    match p.units.filter (·.simpleName == afterLast '.' typeName) with
    | [] => .missing
    | [v] => .found v
    | candidates => .ambiguous candidates

def ambiguity (typeName : String) (u : SourceUnit) (line : Nat) (candidates : List SourceUnit) :
    Issue :=
  { unitName := u.unitName, line
    cause := .ambiguousType (afterLast '.' typeName) (candidates.map SourceUnit.qualifiedName) }

def typeWithIssue (p : Project) (typeName : String) (u : SourceUnit) (line : Nat) :
    Option SourceUnit × List Issue :=
  match p.resolveType typeName u with
  | .found v => (some v, [])
  | .missing => (none, [])
  | .ambiguous candidates => (none, [ambiguity typeName u line candidates])

def superclass? (p : Project) (u : SourceUnit) : Option SourceUnit × List Issue :=
  if u.superclass == "" then (none, [])
  else p.typeWithIssue u.superclass u u.provenance.startLine

/-- The superclasses of all units, by unit names. -/
def superclasses (p : Project) : Table String String × List Issue :=
  p.units.foldl (fun (links, issues) u =>
    match p.superclass? u with
    | (some v, more) =>
      (if v.unitName == u.unitName then links else Table.put u.unitName v.unitName links,
        issues ++ more)
    | (none, more) => (links, issues ++ more)) ([], [])

/-- The method of a call in a unit and at most `n` superclasses. -/
def methodFrom (p : Project) (call : Call) (caller : SourceUnit) (line : Nat) (target : String) :
    Nat → List String → Option SourceUnit → Option MethodKey × List Issue
  | 0, _, _ | _, _, none => (none, [missing])
  | n + 1, seen, some u =>
    if seen.contains u.unitName then (none, [missing])
    else
      match u.findMethods call.method (some call.arity) with
      | [_] => (some { unitName := u.unitName, method := call.method, arity := call.arity }, [])
      | [] =>
        let (parent, issues) := p.superclass? u
        let (key, more) := methodFrom p call caller line target n (u.unitName :: seen) parent
        (key, issues ++ more)
      | several =>
        (none, [{
          unitName := caller.unitName, line
          cause := .overloads call.sourceText several.length u.simpleName call.method call.arity }])
where
  missing : Issue :=
    { unitName := caller.unitName, line
      cause := .noMethod call.sourceText target call.method call.arity }

def resolveMethod (p : Project) (target : SourceUnit) (call : Call) (caller : SourceUnit)
    (line : Nat) : Option MethodKey × List Issue :=
  p.methodFrom call caller line target.simpleName (p.units.length + 1) [] (some target)

end Project

/-!
### Circles of calls

The methods of a project and the calls between them form a graph. A depth-first search goes through
it in the order of the keys' texts; a call back to a method on the current path closes a circle. A
circle that runs through the same methods as an earlier one is not told again.
-/

abbrev CallGraph := Table MethodKey (List MethodKey)

def keyLe (a b : MethodKey) : Bool := textLe a.text b.text

/-- Keys in order, each of them once. -/
def sortKeys (keys : List MethodKey) : List MethodKey := sortBy keyLe (distinct keys)

/-- The methods, each with those it calls. -/
def callGraph (p : Project) (resolutions : Table String MethodKey) : CallGraph :=
  Table.ofPairs (p.units.flatMap fun u => u.methods.map fun m =>
    ({ unitName := u.unitName, method := m.name, arity := m.arity },
      sortKeys ((calls m.actions).filterMap fun c => Table.get? c.id resolutions)))

/-- What the search has found so far. -/
structure Search where
  /-- The methods all of whose calls have been followed. -/
  done : List MethodKey := []
  cycles : List (List MethodKey) := []
  deriving DecidableEq, Repr

/-- The methods of a circle, which tell it from others. -/
def signature (cycle : List MethodKey) : List MethodKey := sortKeys cycle

/-- Adds a circle, unless one through the same methods is known. -/
def Search.addCycle (s : Search) (cycle : List MethodKey) : Search :=
  if s.cycles.any fun c => signature c == signature cycle then s
  else { s with cycles := s.cycles ++ [cycle] }

/-- Follows the calls of a method reached over a path of at most `n` methods. -/
def visit (g : CallGraph) : Nat → List MethodKey → MethodKey → Search → Search
  | 0, _, _, s => s
  | n + 1, path, node, s =>
    let path := path ++ [node]
    let s := ((Table.get? node g).getD []).foldl (fun s next =>
      if path.contains next then s.addCycle (path.dropWhile (· != next) ++ [next])
      else if s.done.contains next then s
      else visit g n path next s) s
    { s with done := s.done ++ [node] }

/-- The circles that the search finds. -/
def cyclesOf (g : CallGraph) : List (List MethodKey) :=
  let search := (sortBy keyLe (Table.keys g)).foldl (fun s key =>
    if s.done.contains key then s else visit g (g.length + 1) [] key s) ({} : Search)
  search.cycles

def cycleIssues (p : Project) (resolutions : Table String MethodKey) : List Issue :=
  (cyclesOf (callGraph p resolutions)).map fun cycle =>
    { unitName := (cycle.getLast?.map MethodKey.unitName).getD "", line := 0,
      cause := .cycle cycle }

end TestMigration.Linking
