import TestMigration.Profile.Reader
/-!
# Settings

A run is configured by variables of the environment. A file can supply variables that the
environment does not have; a variable that is there but empty counts as given to the file and as
absent to the settings.
-/

namespace TestMigration

open Document Text

structure Settings where
  profile : String := "playwright-ts"
  workers : Int := 4
  logLevel : LogLevel := .info
  /-- Without one, the profile decides. -/
  strategy : Option DelegateStrategy := none
  deriving DecidableEq, Repr

namespace Settings

/-! ### Variables -/

/-- A value in a file of variables, without a comment at its end. -/
def fileValue : List Char → List Char
  | [] => []
  | c :: rest =>
    if isBlank c && (rest.dropWhile isBlank).head? == some '#' then [] else c :: fileValue rest

/-- The variable on one line of a file, unless the line is empty or a comment. -/
def assignment? (line : String) : Option (String × String) :=
  let text := trim line
  if text.isEmpty || startsWith "#" text || !text.toList.contains '=' then none
  else some (trim (beforeFirst '=' text),
    trim (.ofList (fileValue (trimLeftChars isBlank (afterFirst '=' text).toList))))

def fileVariables (text : String) : Table String String :=
  Table.ofPairs ((splitOn "\n" (.ofList (unixLines text.toList))).filterMap assignment?)

def environment (env file : Table String String) : Table String String :=
  env ++ file.filter fun v => !Table.has v.1 env

/-! ### Reading them -/

def workersRange (n : Int) : Except FieldFault Int :=
  if n < 1 then .error (.below 1) else if 64 < n then .error (.above 64) else .ok n

def knownLevel (word : String) : Except FieldFault LogLevel :=
  match LogLevel.ofName? (upper word) with
  | some level => .ok level
  | none => .error (.rule ("unknown log level '" ++ upper word ++ "'"))

/-- The settings, each with the variable that gives it. -/
def sources : Table String String :=
  [("profile", "TESTLOOM_PROFILE"), ("workers", "TESTLOOM_WORKERS"),
   ("log_level", "TESTLOOM_LOG_LEVEL"), ("delegate_strategy", "TESTLOOM_DELEGATE_STRATEGY")]

/-- The variables of the program, each under the name of its setting. -/
def document (env : Table String String) : Document :=
  .record (sources.filterMap fun (setting, name) =>
    match Table.get? name env with
    | some value => if value.isEmpty then none else some (setting, .text value)
    | none => none)

def readSettings : FieldReader Settings :=
  readRecord "ConverterSettings" {} fun r => do
    let profile ← r.textOr "profile" "playwright-ts"
    let workers ← r.optional "workers" (checked readInteger workersRange 4) 4
    let logLevel ← r.optional "log_level" (checked readString knownLevel .info) .info
    let strategy ← r.optional "delegate_strategy"
      (checked readString
        (fun word => (Profile.knownStrategy "delegate strategy" word).map some) none)
      none
    return { profile, workers, logLevel, strategy }

def ofEnvironment (env : Table String String) (file : String) : Except ProfileProblem Settings :=
  match readSettings.run (document (environment env (fileVariables file))) with
  | .ok s => .ok s
  | .error errors => .error (.badSettings errors)

end Settings

end TestMigration
