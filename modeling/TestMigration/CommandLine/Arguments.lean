import TestMigration.Diagnostic
import TestMigration.Number.Literal
import TestMigration.Profile.Basic
/-!
# Arguments

Options may stand anywhere among the arguments, be shortened as long as it is clear which one is
meant, and have their value after an equality sign or as the next argument. Two hyphens end the
options. What looks like a negative number, or has a blank in it, is no option.

An argument that can mean several options is wrong wherever it stands. Otherwise arguments are read
from left to right, and the first one that is wrong, or asks for help, ends the reading; unknown
options and superfluous arguments are held against the user only at the end.
-/

namespace TestMigration.CommandLine

open Text

inductive Ending where
  | help
  | misuse
  deriving DecidableEq, Repr

/-- An option by its full name. -/
structure OptionSpec where
  name : String
  takesValue : Bool := true
  /-- Which values are right. -/
  accepts : String → Bool := fun _ => true

def helpOption : OptionSpec := { name := "--help", takesValue := false }

inductive ArgumentKind where
  | plain
  | separator
  | option (spec : OptionSpec) (value : Option String)
  | unknownOption
  | ambiguous

/-- Whether an argument looks like a negative number, with digits of any script. A line end may
follow. -/
def looksNegative (arg : String) : Bool :=
  let isDigit (c : Char) : Bool := (decimalDigit? c).isSome
  match (if endsWith "\n" arg then arg.toList.dropLast else arg.toList) with
  | '-' :: rest =>
    match rest.dropWhile isDigit with
    | [] => !rest.isEmpty
    | '.' :: fraction => !fraction.isEmpty && fraction.all isDigit
    | _ => false
  | _ => false

/-- The options that a long argument can mean: that of its name, or else all that start so. -/
def candidates (specs : List OptionSpec) (name : String) : List OptionSpec :=
  match specs.find? (·.name == name) with
  | some spec => [spec]
  | none => specs.filter fun s => startsWith name s.name

/-- What an argument with a hyphen is that names no option. -/
def unnamedKind (arg : String) : ArgumentKind :=
  if looksNegative arg || arg.toList.contains ' ' then .plain else .unknownOption

/-- What the letter for help means before more letters: others do not matter, unless they are set
off. -/
def shortHelp (more : List Char) : ArgumentKind :=
  match more.dropWhile (· == 'h') with
  | '-' :: _ | '=' :: _ => .option helpOption (some (.ofList more))
  | _ => .option helpOption none

def kindOf (specs : List OptionSpec) (arg : String) : ArgumentKind :=
  if arg == "--" then .separator
  else if startsWith "--" arg then
    let (name, value) := match specs.find? (·.name == arg), arg.toList.contains '=' with
      | none, true => (beforeFirst '=' arg, some (afterFirst '=' arg))
      | _, _ => (arg, none)
    match candidates specs name with
    | [] => unnamedKind arg
    | [spec] => .option spec value
    | _ => .ambiguous
  else if startsWith "-h" arg then shortHelp (arg.toList.drop 2)
  else if startsWith "-" arg && arg != "-" then unnamedKind arg
  else .plain

structure Reading where
  values : Table String String := []
  /-- The options that take none. -/
  switches : List String := []
  plain : List String := []
  /-- Whether the last argument was a plain one. -/
  endsPlain : Bool := false
  unknown : Bool := false

def Reading.value (r : Reading) (spec : OptionSpec) (value : String) : Except Ending Reading :=
  if spec.accepts value then
    .ok { r with values := Table.put spec.name value r.values, endsPlain := false }
  else .error .misuse

def Reading.switch (r : Reading) (spec : OptionSpec) : Except Ending Reading :=
  if spec.name == helpOption.name then .error .help
  else .ok { r with switches := insertNew spec.name r.switches, endsPlain := false }

def isValue (specs : List OptionSpec) (arg : String) : Bool :=
  match kindOf specs arg with
  | .plain => true
  | _ => false

/-- Whether an argument before two hyphens can mean several options. -/
def anyAmbiguous (specs : List OptionSpec) (args : List String) : Bool :=
  (args.takeWhile (· != "--")).any fun arg =>
    match kindOf specs arg with
    | .ambiguous => true
    | _ => false

/-- What follows two hyphens is plain. They go with a plain argument beside them, one of the `count`
expected. -/
def Reading.separate (r : Reading) (count : Nat) (rest : List String) : Reading :=
  { r with plain := r.plain ++ rest
           unknown := r.unknown || (count ≤ r.plain.length && !r.endsPlain) }

/-- Reads arguments of which `count` are expected to be plain. -/
def readArguments (specs : List OptionSpec) (count : Nat) (r : Reading) :
    List String → Except Ending Reading
  | [] => .ok r
  | arg :: rest =>
    match kindOf specs arg with
    | .plain =>
      readArguments specs count { r with plain := r.plain ++ [arg], endsPlain := true } rest
    | .separator => .ok (r.separate count rest)
    | .unknownOption =>
      readArguments specs count { r with unknown := true, endsPlain := false } rest
    | .ambiguous => .error .misuse
    | .option spec (some value) =>
      if spec.takesValue then do readArguments specs count (← r.value spec value) rest
      else .error .misuse
    | .option spec none =>
      if !spec.takesValue then do readArguments specs count (← r.switch spec) rest
      else match rest with
        | value :: rest =>
          if isValue specs value then do readArguments specs count (← r.value spec value) rest
          else .error .misuse
        | [] => .error .misuse

def readAll (specs : List OptionSpec) (count : Nat) (args : List String) : Except Ending Reading :=
  if anyAmbiguous specs args then .error .misuse else readArguments specs count {} args

/-! ### The commands -/

structure ConvertOptions where
  source : String
  out : String
  profile : Option String := none
  strategy : Option DelegateStrategy := none
  workers : Option Int := none
  dryRun : Bool := false
  report : Option String := none
  logLevel : Option LogLevel := none
  deriving DecidableEq, Repr

inductive Command where
  | convert (options : ConvertOptions)
  | profiles (logLevel : Option LogLevel)
  deriving DecidableEq, Repr

/-- A command and the file of variables it starts from. -/
structure Invocation where
  envFile : Option String := none
  command : Command
  deriving DecidableEq, Repr

def logLevelOption : OptionSpec :=
  { name := "--log-level", accepts := fun v => (LogLevel.ofName? v).isSome }

def convertSpecs : List OptionSpec :=
  [helpOption, { name := "--profile" },
   { name := "--delegate-strategy", accepts := fun v => (DelegateStrategy.ofWord? v).isSome },
   { name := "--workers", accepts := fun v => (Number.integerText? v).isSome },
   { name := "--dry-run", takesValue := false }, { name := "--report" }, logLevelOption]

def profilesSpecs : List OptionSpec := [helpOption, logLevelOption]

def mainSpecs : List OptionSpec := [helpOption, { name := "--env-file" }]

def readCommand (name : String) (args : List String) : Except Ending Command :=
  match name with
  | "convert" => do
    let r ← readAll convertSpecs 2 args
    let value (option : String) : Option String := Table.get? option r.values
    match r.plain, r.unknown with
    | [source, out], false =>
      .ok (.convert {
        source, out, profile := value "--profile"
        strategy := (value "--delegate-strategy").bind DelegateStrategy.ofWord?
        workers := (value "--workers").bind Number.integerText?
        dryRun := r.switches.contains "--dry-run", report := value "--report"
        logLevel := (value "--log-level").bind LogLevel.ofName? })
    | _, _ => .error .misuse
  | "profiles" => do
    let r ← readAll profilesSpecs 0 args
    if r.plain.isEmpty && !r.unknown then
      .ok (.profiles ((Table.get? "--log-level" r.values).bind LogLevel.ofName?))
    else .error .misuse
  | _ => .error .misuse

/-- Reads what stands before the command, then the command. -/
def readFrom (r : Reading) : List String → Except Ending Invocation
  | [] => .error .misuse
  | arg :: rest =>
    match kindOf mainSpecs arg with
    | .plain => do
      let command ← readCommand arg rest
      if r.unknown then .error .misuse
      else .ok { envFile := Table.get? "--env-file" r.values, command }
    | .separator | .ambiguous => .error .misuse
    | .unknownOption => readFrom { r with unknown := true } rest
    | .option spec (some value) =>
      if spec.takesValue then do readFrom (← r.value spec value) rest else .error .misuse
    | .option spec none =>
      if !spec.takesValue then do readFrom (← r.switch spec) rest
      else match rest with
        | value :: rest =>
          if isValue mainSpecs value then do readFrom (← r.value spec value) rest
          else .error .misuse
        | [] => .error .misuse

def readInvocation (args : List String) : Except Ending Invocation :=
  if anyAmbiguous mainSpecs args then .error .misuse else readFrom {} args

end TestMigration.CommandLine
