import TestMigration.Halt
import TestMigration.Table
import TestMigration.Text.Path
import TestMigration.Text.Shown
/-!
# File trees

The files that a run reads and writes, as data: a table from locations to folders and files. A
location is the list of names on the way from the top. The operations fail as those of a file system
do, and with the same words.

A path is followed name by name. So two dots lead back only out of a folder that is there, and what
stands before a slash has to be a folder.
-/

namespace TestMigration.Files

open Text

/-!
### Bytes and texts

Sources are read as UTF-8 whatever their bytes are. A byte sequence that could still become a
character is kept pending; when the next byte does not fit, the pending bytes become one replacement
character, and the byte that did not fit starts anew. So every longest possible beginning of a
character gives one replacement character.
-/

/-- A character whose bytes have not all been read. -/
structure Pending where
  left : Nat
  /-- The bounds for the next byte. -/
  low : Nat := 0x80
  high : Nat := 0xBF
  value : Nat
  deriving DecidableEq, Repr

/-- What the first byte of a character opens: a pending character, or one by itself. -/
def openChar (b : Nat) : Option Pending × List Char :=
  if b < 0x80 then (none, [Char.ofNat b])
  else if 0xC2 ≤ b && b ≤ 0xDF then (some { left := 1, value := b - 0xC0 }, [])
  else if b = 0xE0 then (some { left := 2, low := 0xA0, value := 0 }, [])
  else if b = 0xED then (some { left := 2, high := 0x9F, value := 0xD }, [])
  else if 0xE1 ≤ b && b ≤ 0xEF then (some { left := 2, value := b - 0xE0 }, [])
  else if b = 0xF0 then (some { left := 3, low := 0x90, value := 0 }, [])
  else if b = 0xF4 then (some { left := 3, high := 0x8F, value := 4 }, [])
  else if 0xF1 ≤ b && b ≤ 0xF3 then (some { left := 3, value := b - 0xF0 }, [])
  else (none, ['�'])

def stepByte (pending : Option Pending) (b : Nat) : Option Pending × List Char :=
  match pending with
  | none => openChar b
  | some p =>
    if p.low ≤ b && b ≤ p.high then
      let value := p.value * 0x40 + (b - 0x80)
      if p.left ≤ 1 then (none, [Text.charOfPoint value])
      else (some { left := p.left - 1, value }, [])
    else
      let (next, out) := openChar b
      (next, '�' :: out)

def decodeFrom (pending : Option Pending) : List UInt8 → List Char
  | [] => if pending.isSome then ['�'] else []
  | b :: rest =>
    let (next, out) := stepByte pending b.toNat
    out ++ decodeFrom next rest

def decode (bytes : List UInt8) : String := .ofList (Text.unixLines (decodeFrom none bytes))

/-- The text of a file as it is. -/
def decodeRaw (bytes : List UInt8) : String := .ofList (decodeFrom none bytes)

/-- The text of a file if its bytes are those of a text, with line feeds for all line ends. -/
def decode? (bytes : List UInt8) : Option String :=
  (String.fromUTF8? (ByteArray.mk bytes.toArray)).map fun s => .ofList (Text.unixLines s.toList)

def encode (text : String) : List UInt8 := text.toUTF8.toList

/-- What is at a location. -/
inductive Entry where
  | folder
  | file (bytes : List UInt8)
  deriving DecidableEq, Repr

/-- Files and folders by location. The top is always a folder. -/
structure FileTree where
  entries : Table (List String) Entry := []
  deriving Repr

def locationPath (location : List String) : String := "/" ++ join "/" location

def locationOf (cwd path : String) : List String := Path.absoluteComponents cwd path

/-- An operation that failed, and where. -/
structure FileFailure where
  problem : FileProblem
  location : List String
  deriving DecidableEq, Repr

def FileFailure.message (f : FileFailure) : String :=
  if f.problem.isOwn then f.problem.words
  else f.problem.words ++ ": " ++ shown (locationPath f.location)

def maxNameBytes : Nat := 255

def maxPathBytes : Nat := 4095

def pathProblem? (path : String) : Option FileProblem :=
  if path.toList.contains '\x00' then some .nullCharacter
  else if maxPathBytes < path.utf8ByteSize then some .nameTooLong
  else none

def locationProblem? (location : List String) : Option FileProblem :=
  match pathProblem? (locationPath location) with
  | some problem => some problem
  | none => if maxNameBytes < (location.getLastD "").utf8ByteSize then some .nameTooLong else none

namespace FileTree

def get? (t : FileTree) : List String → Option Entry
  | [] => some .folder
  | location => Table.get? location t.entries

def put (t : FileTree) (location : List String) (e : Entry) : FileTree :=
  { entries := Table.put location e t.entries }

def isFolder (t : FileTree) (location : List String) : Bool := t.get? location == some .folder

def bytes? (t : FileTree) (location : List String) : Option (List UInt8) :=
  match t.get? location with
  | some (.file bytes) => some bytes
  | _ => none

/-- Why nothing is at a location: something on the way is a file, or missing. -/
def obstacle (t : FileTree) (done : List String) : List String → FileProblem
  | [] => .missing
  | name :: rest =>
    match t.get? (done ++ [name]) with
    | some .folder => obstacle t (done ++ [name]) rest
    | some (.file _) => if rest.isEmpty then .missing else .notFolder
    | none => .missing

/-- Follows a path from a location. Its last name need not be there. -/
def follow (t : FileTree) (here : List String) : List String → Except FileProblem (List String)
  | [] => .ok here
  | name :: rest =>
    match t.get? here with
    | none => .error .missing
    | some (.file _) => .error .notFolder
    | some .folder =>
      if name == "" || name == "." then follow t here rest
      else if name == ".." then follow t here.dropLast rest
      else if maxNameBytes < name.utf8ByteSize then .error .nameTooLong
      else follow t (here ++ [name]) rest

/-- Where a path leads, seen from a working directory. -/
def locate (t : FileTree) (cwd path : String) : Except FileProblem (List String) :=
  if path.isEmpty then .error .missing
  else match pathProblem? path with
    | some problem => .error problem
    | none => t.follow (if Path.isAbsolute path then [] else locationOf "/" cwd) (Path.split path)

def leadsToFolder (t : FileTree) (cwd path : String) : Bool :=
  match t.locate cwd path with
  | .ok location => t.isFolder location
  | .error _ => false

def read (t : FileTree) (cwd path : String) : Except FileProblem (List UInt8) := do
  match t.get? (← t.locate cwd path) with
  | some (.file bytes) => .ok bytes
  | some .folder => .error .isFolder
  | none => .error .missing

/-- Makes the missing folders from `done` to a location. Those made before a failure stay. -/
def makeFolders (t : FileTree) (done : List String) :
    List String → Except FileFailure Unit × FileTree
  | [] => (.ok (), t)
  | name :: rest =>
    let here := done ++ [name]
    match t.get? here with
    | some .folder => makeFolders t here rest
    | none =>
      match locationProblem? here with
      | some problem => (.error { problem, location := here }, t)
      | none => makeFolders (t.put here .folder) here rest
    | some (.file _) =>
      match rest with
      | [] => (.error { problem := .occupied, location := here }, t)
      | next :: _ => (.error { problem := .notFolder, location := here ++ [next] }, t)

def write (t : FileTree) (location : List String) (bytes : List UInt8) :
    Except FileFailure FileTree :=
  if t.isFolder location then .error { problem := .isFolder, location }
  else if t.isFolder location.dropLast then
    match locationProblem? location with
    | some problem => .error { problem, location }
    | none => .ok (t.put location (.file bytes))
  else .error { problem := t.obstacle [] location, location }

/-- Writes a file to where a path leads. After a final slash there can only be a folder. -/
def writeAt (t : FileTree) (cwd path : String) (bytes : List UInt8) :
    Except FileProblem FileTree := do
  let name := String.ofList (trimRightChars (· == '/') path.toList)
  let location ← t.locate cwd (if name.isEmpty then path else name)
  if name.length < path.length then .error .isFolder
  else (t.write location bytes).mapError FileFailure.problem

/-- The tree without what is at a location and below it. -/
def remove (t : FileTree) (location : List String) : FileTree :=
  { entries := t.entries.filter fun (place, _) => !location.isPrefixOf place }

def moveFile (t : FileTree) (source target : List String) : Except FileFailure FileTree :=
  match t.bytes? source with
  | none => .error { problem := .missing, location := source }
  | some bytes => (t.write target bytes).map (·.remove source)

/-- Moves a folder as a whole to a free location. -/
def moveFolder (t : FileTree) (source target : List String) : FileTree :=
  { entries := t.entries.map fun (place, e) =>
      (if source.isPrefixOf place then target ++ place.drop source.length else place, e) }

def filesBelow (t : FileTree) (location : List String) : List (List String × List UInt8) :=
  t.entries.filterMap fun (place, e) =>
    match e with
    | .file bytes =>
      if location.isPrefixOf place then some (place.drop location.length, bytes) else none
    | .folder => none

def isEmptyFolder (t : FileTree) (location : List String) : Bool :=
  t.isFolder location &&
    t.entries.all fun (place, _) => !(location.isPrefixOf place && location.length < place.length)

end FileTree

end TestMigration.Files
