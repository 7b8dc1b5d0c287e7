import TestMigration.Document.Basic
import TestMigration.Number.Literal
/-!
# Checking documents against a schema

A document is read into a typed value field by field, and every field that does not fit is reported,
not only the first one. A reader therefore always gives a value, some stand-in where the document
has none, and notes what was wrong. Whether anything was noted decides in the end.

Texts have to be texts. Numbers and truth values are read generously: a number may be written as a
text, a truth value as a word.
-/

namespace TestMigration.Document

open Text

/-!
### Faults of documents

What can be wrong with a field of a document, in short and in words, and the order in which faults
are reported.
-/

inductive FieldFault where
  | missing
  | notText
  | notList
  | notTable
  /-- A record with fixed fields, known under a name, is expected. -/
  | notRecord (name : String)
  | notInteger
  | unreadableInteger
  /-- An integer with too many digits, or a real number that is no machine integer. -/
  | oversizedInteger
  | fractionalInteger
  | infiniteInteger
  | notFlag
  | unreadableFlag
  | below (least : Int)
  | above (greatest : Int)
  /-- A rule about a value of the right type is broken. -/
  | rule (text : String)
  deriving DecidableEq, Repr

def FieldFault.code : FieldFault → String
  | missing => "missing"
  | notText => "string_type"
  | notList => "list_type"
  | notTable => "dict_type"
  | notRecord _ => "model_type"
  | notInteger => "int_type"
  | unreadableInteger => "int_parsing"
  | oversizedInteger => "int_parsing_size"
  | fractionalInteger => "int_from_float"
  | infiniteInteger => "finite_number"
  | notFlag => "bool_type"
  | unreadableFlag => "bool_parsing"
  | below _ => "greater_than_equal"
  | above _ => "less_than_equal"
  | rule _ => "value_error"

def FieldFault.message : FieldFault → String
  | missing => "Field required"
  | notText => "Input should be a valid string"
  | notList => "Input should be a valid list"
  | notTable => "Input should be a valid dictionary"
  | notRecord name => "Input should be a valid dictionary or instance of " ++ name
  | notInteger => "Input should be a valid integer"
  | unreadableInteger => "Input should be a valid integer, unable to parse string as an integer"
  | oversizedInteger =>
    "Unable to parse input string as an integer, exceeded maximum size"
  | fractionalInteger => "Input should be a valid integer, got a number with a fractional part"
  | infiniteInteger => "Input should be a finite number"
  | notFlag => "Input should be a valid boolean"
  | unreadableFlag => "Input should be a valid boolean, unable to interpret input"
  | below least => "Input should be greater than or equal to " ++ toString least
  | above greatest => "Input should be less than or equal to " ++ toString greatest
  | rule words => "Value error, " ++ words

/-- A fault, and the names on the way to its field. -/
structure FieldError where
  path : List String
  fault : FieldFault
  deriving DecidableEq, Repr

/-- The order of paths: by the first difference, the shorter one first. -/
def pathLt : List String → List String → Bool
  | [], [] => false
  | [], _ => true
  | _, [] => false
  | a :: as, b :: bs => if a = b then pathLt as bs else decide (a < b)

/-- The order of reports: by path, then by the name of the fault. -/
def FieldError.le (a b : FieldError) : Bool :=
  if a.path = b.path then textLe a.fault.code b.fault.code else pathLt a.path b.path

/-!
### Integers as texts

A field for an integer also takes a text. The text is read as it stands: a minus, if any, and digits
of which the first is a zero only if it is alone. If that fails, the text is put into this form
first. Blanks around it, a plus, zeros in front, a point with zeros at the end and single
underscores between digits are left out, in this order. A text with too many digits is refused
as such.
-/

/-- Digits of which the first is a zero only if it is alone. -/
def isCanonical : List Char → Bool
  | [] => false
  | '0' :: rest => rest.isEmpty
  | digits => digits.all Char.isDigit

/-- The length of the digits at the start of a text, with a minus; none if they start with a
zero. -/
def digitRun (cs : List Char) : Nat :=
  let digits := if cs.head? == some '-' then cs.tail else cs
  if digits.head? == some '0' || !digits.head?.any Char.isDigit then 0
  else (cs.length - digits.length) + (digits.takeWhile Char.isDigit).length

def canonicalInteger (cs : List Char) : Except FieldFault Int :=
  let digits := if cs.head? == some '-' then cs.tail else cs
  if Number.maxDecimalDigits < digitRun cs then .error .oversizedInteger
  else if isCanonical digits then
    match Number.signedIn? 10 cs with
    | some n => .ok n
    | none => .error .unreadableInteger
  else .error .unreadableInteger

/-- Whether a blank may stand around an integer: the four separators may not. -/
def isMargin (c : Char) : Bool := isBlank c && !(0x1C ≤ c.toNat && c.toNat ≤ 0x1F)

/-- A text without one plus, which no minus may follow. -/
def dropPlus? : List Char → Option (List Char)
  | '+' :: '-' :: _ => none
  | '+' :: rest => some rest
  | cs => some cs

/-- What follows zeros and underscores up to another digit; `last` is the character before. Before a
point or the end, the last character is kept. -/
def afterZeros? (last : Char) : List Char → Option (List Char)
  | [] => some [last]
  | c :: rest =>
    if c == '0' || c == '_' then afterZeros? c rest
    else if c.isDigit then some (c :: rest)
    else if c == '.' then some (last :: c :: rest)
    else none

/-- A text without the zeros in front. A minus before them keeps them. -/
def dropZeros? : List Char → Option (List Char)
  | [] => none
  | c :: rest =>
    if c == '0' then afterZeros? c rest
    else if c.isDigit || c == '-' then some (c :: rest)
    else none

/-- A text without a point that only zeros follow, at least one. -/
def dropFraction (cs : List Char) : List Char :=
  match cs.dropWhile (· != '.') with
  | '.' :: '0' :: zeros => if zeros.all (· == '0') then cs.takeWhile (· != '.') else cs
  | _ => cs

/-- A text without underscores, which stand singly inside of it. -/
def dropUnderscores? (cs : List Char) : Option (List Char) :=
  if cs.head? == some '_' || cs.getLast? == some '_' || occursIn "__" (String.ofList cs) then none
  else some (cs.filter (· != '_'))

def canonicalForm? (cs : List Char) : Option (List Char) := do
  let cs ← dropPlus? (trimChars isMargin cs)
  let cs ← dropZeros? cs
  dropUnderscores? (dropFraction cs)

def integerOfText (s : String) : Except FieldFault Int :=
  let cs := s.toList
  match canonicalInteger cs with
  | .error .unreadableInteger =>
    match canonicalForm? cs with
    | some cs => canonicalInteger cs
    | none => .error .unreadableInteger
  | result => result

/-- Reading with a record of what was wrong so far. -/
abbrev Check := StateM (List FieldError)

def refuse {α : Type} (path : List String) (fault : FieldFault) (standIn : α) : Check α := do
  modify (· ++ [{ path, fault }])
  pure standIn

abbrev FieldReader (α : Type) := List String → Document → Check α

/-- What a reader gives, or all that is wrong, in the order of reports. -/
def FieldReader.run {α : Type} (read : FieldReader α) (d : Document) : Except (List FieldError) α :=
  match (read [] d).run [] with
  | (value, []) => .ok value
  | (_, errors) => .error (sortBy FieldError.le errors)

/-! ### Leaves -/

def readString : FieldReader String := fun path d =>
  match d with
  | .text s => pure s
  | _ => refuse path .notText ""

def readOptional : FieldReader (Option String) := fun path d =>
  match d with
  | .null => pure none
  | .text s => pure (some s)
  | _ => refuse path .notText none

/-- Machine integers lie strictly between `-machineBound` and `machineBound`. -/
def machineBound : Int := Int.ofNat (Number.twoTo 63)

/-- A real number without a fraction as a machine integer. -/
def integerOfReal (x : Float) : Except FieldFault Int :=
  if !Number.isFinite x then .error .infiniteInteger
  else match Number.exactInt? x with
    | some n => if -machineBound < n && n < machineBound then .ok n else .error .oversizedInteger
    | none => .error .fractionalInteger

def orRefuse {α : Type} (path : List String) (standIn : α) : Except FieldFault α → Check α
  | .ok value => pure value
  | .error fault => refuse path fault standIn

/-- An integer: a whole number, a truth value, or a text of digits. -/
def readInteger : FieldReader Int := fun path d =>
  match d with
  | .int n => pure n
  | .flag b => pure (if b then 1 else 0)
  | .real x => orRefuse path 0 (integerOfReal x)
  | .text s => orRefuse path 0 (integerOfText s)
  | _ => refuse path .notInteger 0

def flagOfInt (n : Int) : Except FieldFault Bool :=
  if n = 0 then .ok false else if n = 1 then .ok true else .error .unreadableFlag

def yesWords : List String := ["1", "t", "y", "on", "yes", "true"]

def noWords : List String := ["0", "f", "n", "no", "off", "false"]

/-- A truth value: also one of the numbers zero and one, or a word. -/
def readFlag : FieldReader Bool := fun path d =>
  match d with
  | .flag b => pure b
  | .int n =>
    orRefuse path false
      (if -machineBound ≤ n && n < machineBound then flagOfInt n else .error .notFlag)
  | .real x =>
    match integerOfReal x with
    | .ok n => orRefuse path false (flagOfInt n)
    | .error _ => refuse path .notFlag false
  | .text s =>
    let word := String.ofList (s.toList.map Char.toLower)
    if yesWords.contains word then pure true
    else if noWords.contains word then pure false
    else refuse path .unreadableFlag false
  | _ => refuse path .notFlag false

/-! ### Lists, tables and records -/

/-- The items of a list, each located by its number. -/
def readEach {α : Type} (read : FieldReader α) (path : List String) :
    Nat → List Document → Check (List α)
  | _, [] => pure []
  | i, d :: rest => do
    let value ← read (path ++ [toString i]) d
    return value :: (← readEach read path (i + 1) rest)

def readList {α : Type} (read : FieldReader α) : FieldReader (List α) := fun path d =>
  match d with
  | .list items => readEach read path 0 items
  | _ => refuse path .notList []

def readValues {α : Type} (read : FieldReader α) (path : List String) :
    List (String × Document) → Check (Table String α)
  | [] => pure []
  | (key, d) :: rest => do
    let value ← read (path ++ [key]) d
    return (key, value) :: (← readValues read path rest)

def readTable {α : Type} (read : FieldReader α) : FieldReader (Table String α) := fun path d =>
  match d with
  | .record fields => readValues read path fields
  | _ => refuse path .notTable []

def readTexts : FieldReader (Table String String) := readTable readString

/-- The fields of a record that is being read, and the path to it. -/
structure Fields where
  path : List String
  fields : List (String × Document)

def readRecord {α : Type} (name : String) (standIn : α) (read : Fields → Check α) : FieldReader α :=
  fun path d =>
    match d with
    | .record fields => read { path, fields }
    | _ => refuse path (.notRecord name) standIn

def Fields.required {α : Type} (r : Fields) (name : String) (read : FieldReader α) (standIn : α) :
    Check α :=
  match Table.get? name r.fields with
  | some d => read (r.path ++ [name]) d
  | none => refuse (r.path ++ [name]) .missing standIn

def Fields.optional {α : Type} (r : Fields) (name : String) (read : FieldReader α) (default : α) :
    Check α :=
  match Table.get? name r.fields with
  | some d => read (r.path ++ [name]) d
  | none => pure default

def Fields.text (r : Fields) (name : String) : Check String := r.required name readString ""

def Fields.textOr (r : Fields) (name default : String) : Check String :=
  r.optional name readString default

def Fields.renamed (r : Fields) (name second : String) : Fields :=
  if Table.has name r.fields then r
  else match Table.get? second r.fields with
    | some d => { r with fields := r.fields ++ [(name, d)] }
    | none => r

def checked {α β : Type} (read : FieldReader α) (rule : α → Except FieldFault β) (standIn : β) :
    FieldReader β := fun path d => do
  let before := (← get).length
  let value ← read path d
  if (← get).length = before then
    match rule value with
    | .ok result => pure result
    | .error fault => refuse path fault standIn
  else pure standIn

end TestMigration.Document
