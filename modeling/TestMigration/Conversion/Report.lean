import TestMigration.Extraction.Unit
import TestMigration.Linking.Link
import TestMigration.Rendering.Run
import TestMigration.Syntax.Unit
/-!
# Conversion runs

A run reads its sources one by one, links the units it got and renders them. A source that cannot be
read is set aside, a unit that cannot be rendered too, and the run goes on with the others; only a
project whose parts do not fit together stops it. The report accounts for every source: it was
converted, or it failed for a reason, and there are diagnostics in the order of the stages.

The sources may be read in any order, since what is read is put in the order of the unit names. The
parser that reads them is given to the run.
-/

namespace TestMigration

open Rendering

inductive RunStatus where
  | success
  | mixed
  | failure
  deriving DecidableEq, Repr

def RunStatus.word : RunStatus → String
  | success => "success"
  | mixed => "partial"
  | failure => "failure"

def RunStatus.exitCode : RunStatus → Nat
  | success => 0
  | mixed => 1
  | failure => 2

/-- What a run has to tell. -/
structure Report where
  status : RunStatus
  profile : String
  strategy : DelegateStrategy
  units : List OutputUnit := []
  converted : List String := []
  /-- The other sources, each with the reason. -/
  failed : Table String String := []
  diagnostics : List Diagnostic := []

def Report.errors (r : Report) : List Diagnostic := r.diagnostics.filter (·.severity == .error)

def Report.document (r : Report) : Document :=
  .record
    [("status", .text r.status.word), ("profile", .text r.profile),
     ("delegate_strategy", .text r.strategy.word), ("converted", Document.texts r.converted),
     ("failed", Document.ofTable r.failed), ("outputs", Document.texts (r.units.map (·.path))),
     ("diagnostics", .list (r.diagnostics.map Diagnostic.document))]

namespace Conversion

/-- The sources that were read and those that could not be. -/
structure Intake where
  units : List SourceUnit := []
  rejected : Table String Syntax.Rejection := []

/-- What becomes of a source, which is a unit name and a text. -/
def readOne (parser : Syntax.Parser) (source : String × String) :
    Except Syntax.Problem SourceUnit :=
  Syntax.readSource parser source.2 source.1 none >>= Extraction.extract

/-- Adds a source to what has been read. -/
def readNext (parser : Syntax.Parser) (intake : Intake) (source : String × String) :
    Except Halt Intake :=
  match readOne parser source with
  | .ok u => .ok { intake with units := intake.units ++ [u] }
  | .error (.rejected r) => .ok { intake with rejected := Table.put source.1 r intake.rejected }
  | .error (.halted h) => .error h

/-- What was read and what was not, in the order of the names. -/
def Intake.sorted (intake : Intake) : Intake where
  units := sortBy (fun a b => textLe a.unitName b.unitName) intake.units
  rejected := sortBy (fun a b => textLe a.1 b.1) intake.rejected

/-- The report before anything has been converted. -/
def intakeReport (p : Profile) (strategy : DelegateStrategy) (intake : Intake) : Report :=
  { status := .failure, profile := p.name, strategy
    failed := intake.rejected.map fun (name, r) => (name, r.message)
    diagnostics := intake.rejected.map (fun (_, r) => r.diagnostic)
      ++ intake.units.flatMap (·.diagnostics) }

/-- The report after rendering, which follows the one after linking. -/
def renderedReport (start : Report) (result : Result) : Report :=
  let refused := sortBy (fun a b => textLe a.1 b.1) result.refused
  let failed := Table.merge start.failed (refused.map fun (name, r) => (name, r.fault.message))
  let converted := (result.units.map (·.source)).filter (!·.isEmpty)
  let status :=
    if converted.isEmpty then .failure else if failed.isEmpty then .success else .mixed
  { start with
    status, failed, converted
    units := if converted.isEmpty then [] else result.units
    diagnostics := start.diagnostics ++ result.diagnostics }

/-- What is reported about an intake in the order of the names. -/
def reportOf (p : Profile) (strategy : DelegateStrategy) (intake : Intake) :
    Except Halt Report := do
  let start := intakeReport p strategy intake
  if intake.units.isEmpty then return start
  match Linking.link intake.units intake.rejected.keys with
  | .error issues =>
    return { start with diagnostics := start.diagnostics ++ issues.map Linking.Issue.diagnostic }
  | .ok model =>
    let linked := { start with diagnostics := start.diagnostics ++ model.diagnostics }
    return renderedReport linked (← renderAll model p (some strategy))

/-- What follows once all sources have been read. Without a strategy, the profile decides. -/
def finish (p : Profile) (strategy : Option DelegateStrategy) (intake : Intake) :
    Except Halt Report :=
  reportOf p (strategy.getD p.delegateStrategy) intake.sorted

/-- Converts sources. -/
def convert (parser : Syntax.Parser) (sources : List (String × String)) (p : Profile)
    (strategy : Option DelegateStrategy) : Except Halt Report :=
  sources.foldlM (readNext parser) {} >>= finish p strategy

end Conversion

end TestMigration
