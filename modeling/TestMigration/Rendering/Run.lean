import TestMigration.Rendering.File
/-!
# All units of a run

Every unit is rendered on its own, in the order of the unit names, and refused on its own. A unit
that imports a refused one would not run, so it is refused as well, and so on until nothing changes.
What is left is completed by the files that belong to the whole run.
-/

namespace TestMigration.Rendering

open Text Profile

/-- What is left of a run. -/
structure Result where
  units : List OutputUnit := []
  refused : Table String Refusal := []
  diagnostics : List Diagnostic := []

/-- The units that each written unit imports. -/
abbrev Imports := Table String (List String)

/-! ### Refusals spread -/

/-- The refused units that a unit imports. -/
def brokenImports (imports : Imports) (r : Result) (source : String) : List String :=
  sortTexts (((Table.get? source imports).getD []).filter fun name => Table.has name r.refused)

def dropIfBroken (imports : Imports) (r : Result) (u : OutputUnit) : Result :=
  match brokenImports imports r u.source with
  | [] => r
  | broken =>
    let refusal : Refusal := { fault := .dependency broken, unitName := u.source }
    { units := r.units.erase u
      refused := Table.put u.source refusal r.refused
      diagnostics := r.diagnostics ++ [refusal.diagnostic] }

def dropRound (imports : Imports) (r : Result) : Result := r.units.foldl (dropIfBroken imports) r

/-- Rounds until one changes nothing. Every other round refuses a unit, so the number of units
bounds them. -/
def dropRounds (imports : Imports) : Nat → Result → Result
  | 0, r => r
  | n + 1, r =>
    let next := dropRound imports r
    if next.units.length = r.units.length then next else dropRounds imports n next

/-- The result without the units that depend on refused ones. -/
def dropDependents (imports : Imports) (r : Result) : Result := dropRounds imports r.units.length r

/-! ### Files of the whole run -/

/-- The browser that the first unit with a choice has chosen. -/
def browserOf (m : Model) : String :=
  ((m.units.map (·.context.browser)).find? (!·.isEmpty)).getD "chromium"

/-- The directories above a path, together with those found before. The root is above itself, so
above an absolute path the climb never ends. -/
def climb (found : List String) (path : String) : Option (List String) :=
  let directory := Path.directory path
  if directory.isEmpty then some found
  else if directory.length < path.length then climb (found.insert directory) directory
  else none
termination_by path.length

/-- The directories above all units, together with those found before. -/
def climbAll (found : List String) (units : List OutputUnit) : Option (List String) :=
  units.foldlM (fun found u => climb found u.path) found

/-- A file that belongs to the whole run. -/
def supportUnit (path text : String) : OutputUnit :=
  { qualifiedName := path, path, kind := .support, source := "", text }

/-- The files that the profile asks for. -/
def profileFiles (m : Model) (p : Profile) : List OutputUnit :=
  (sortBy (fun a b => textLe a.1 b.1) p.supportFiles).map fun (path, template) =>
    supportUnit path (fill template [("browser", browserOf m), ("profile", p.name)])

/-- The files of the whole run: those of the profile, and markers in the directories above the
units. -/
def supportUnits (m : Model) (p : Profile) (units : List OutputUnit) : Option (List OutputUnit) :=
  let marker := p.packageMarker.getD ""
  if marker.isEmpty then some (profileFiles m p)
  else (climbAll [] units).map fun directories =>
    profileFiles m p ++ (sortTexts directories).map fun d => supportUnit (Path.append d marker) ""

/-! ### The run -/

def renderNext (m : Model) (p : Profile) (strategy : DelegateStrategy) (done : Result × Imports)
    (u : SourceUnit) : Except Halt (Result × Imports) := do
  let (r, imports) := done
  match ← renderUnit { model := m, profile := p, strategy, unit := u } with
  | (.ok output, s) =>
    return ({ r with units := r.units ++ [output], diagnostics := r.diagnostics ++ s.diagnostics },
      Table.put u.unitName (s.imported.filter (· != u.unitName)) imports)
  | (.error refusal, s) =>
    return ({ r with
      refused := Table.put u.unitName refusal r.refused
      diagnostics := r.diagnostics ++ [refusal.diagnostic] ++ s.diagnostics }, imports)

/-- Adds the files of the whole run, if there is any unit. -/
def complete (m : Model) (p : Profile) (r : Result) : Except Halt Result :=
  if r.units.isEmpty then .ok r
  else
    match supportUnits m p r.units with
    | none => .error .endlessClimb
    | some support => .ok { r with units := r.units ++ support }

/-- Renders all units of a model. Without a strategy, the profile decides. -/
def renderAll (m : Model) (p : Profile) (strategy : Option DelegateStrategy) :
    Except Halt Result := do
  let strategy := strategy.getD p.delegateStrategy
  let (r, imports) ← (sortBy (fun a b => textLe a.unitName b.unitName) m.units).foldlM
    (renderNext m p strategy) ({}, [])
  complete m p (dropDependents imports r)

end TestMigration.Rendering
