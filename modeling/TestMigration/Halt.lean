/-!
# What stops a whole run

Most trouble is reported as a diagnostic of one unit and the run goes on. The conditions below are
the others: they have no place in a report and end the run where they occur. Problems with files are
among them where they are not a matter of one source; their words are those of the system.
-/

namespace TestMigration

/-- Why an operation on files fails. -/
inductive Files.FileProblem where
  | missing
  | occupied
  | isFolder
  | notFolder
  | nameTooLong
  | nullCharacter
  /-- A text has no bytes, for the given reason. -/
  | unencodable (reason : String)
  deriving DecidableEq, Repr

def Files.FileProblem.words : Files.FileProblem → String
  | missing => "[Errno 2] No such file or directory"
  | occupied => "[Errno 17] File exists"
  | isFolder => "[Errno 21] Is a directory"
  | notFolder => "[Errno 20] Not a directory"
  | nameTooLong => "[Errno 36] File name too long"
  | nullCharacter => "embedded null byte"
  | unencodable reason => reason

/-- Whether a problem is one of what was given, not of the system. -/
def Files.FileProblem.isOwn : Files.FileProblem → Bool
  | nullCharacter | unencodable _ => true
  | _ => false

/-- Why a run cannot go on. -/
inductive Halt where
  | numberTooLarge
  | malformedLiteral
  | numberTooLong
  /-- A timeout is infinite and has no number of milliseconds. -/
  | endlessTimeout
  | undefinedTimeout
  | notANumber (text : String)
  | noNumber
  /-- What is not understood stands neither in a statement nor in a field. -/
  | unrecognized
  /-- A script is under a cast where its arguments are looked for. -/
  | castScript
  | unknownUnit (name : String)
  | unknownMethod (unitName method : String) (arity : Nat)
  /-- A kind of unit without a path template. -/
  | noPath (kind : String)
  | circularLocator (field : String)
  /-- There is no end to the directories above an absolute path. -/
  | endlessClimb
  /-- A value without a target form where no comment can stand. -/
  | untranslatable (text : String)
  | noKeywords
  | unsupportedLanguage (language : String)
  | unsupportedFile (path : String)
  | undecodable
  | file (problem : Files.FileProblem)
  deriving DecidableEq, Repr

def Halt.message : Halt → String
  | .unsupportedLanguage language =>
    "Unsupported language: " ++ language ++ ". Supported: ['java']"
  | .unsupportedFile path => "Unsupported file type: " ++ path
  | _ => ""

end TestMigration
