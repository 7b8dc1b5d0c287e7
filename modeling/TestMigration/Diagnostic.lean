import TestMigration.Document.Basic
/-!
# Diagnostics

Every fallback and every failure of a run is reported as one record: how grave it is, which unit it
is about, where, and in what words.
-/

namespace TestMigration

inductive Severity where
  | info
  | warning
  | error
  deriving DecidableEq, Repr

def Severity.word : Severity → String
  | .info => "info"
  | .warning => "warning"
  | .error => "error"

/-- A place in a source unit: line and column, counted from one. -/
structure Position where
  line : Nat
  column : Nat := 1
  deriving DecidableEq, Repr

def Position.text (p : Position) : String := toString p.line ++ ":" ++ toString p.column

structure Diagnostic where
  severity : Severity
  unitName : String
  message : String
  position : Option Position := none
  code : String := ""
  deriving DecidableEq, Repr

def Diagnostic.line (d : Diagnostic) : String :=
  let place := match d.position with
    | some p => d.unitName ++ ":" ++ p.text
    | none => d.unitName
  "[" ++ d.severity.word ++ "] " ++ place ++ ": " ++ d.message

def Diagnostic.document (d : Diagnostic) : Document :=
  .record
    [("severity", .text d.severity.word), ("unit_name", .text d.unitName),
     ("position", match d.position with
       | some p => .text p.text
       | none => .null),
     ("message", .text d.message), ("code", .text d.code)]

inductive LogLevel where
  | debug
  | info
  | warning
  | error
  deriving DecidableEq, Repr

def LogLevel.name : LogLevel → String
  | .debug => "DEBUG"
  | .info => "INFO"
  | .warning => "WARNING"
  | .error => "ERROR"

def LogLevel.ofName? : String → Option LogLevel
  | "DEBUG" => some .debug
  | "INFO" => some .info
  | "WARNING" => some .warning
  | "ERROR" => some .error
  | _ => none

/-- The rank of a level: higher is graver. -/
def LogLevel.rank : LogLevel → Nat
  | .debug => 0
  | .info => 1
  | .warning => 2
  | .error => 3

def Severity.level : Severity → LogLevel
  | .info => .info
  | .warning => .warning
  | .error => .error

structure LogLine where
  level : LogLevel
  message : String
  deriving DecidableEq, Repr

def Diagnostic.logLine (d : Diagnostic) : LogLine :=
  { level := d.severity.level, message := d.line }

end TestMigration
