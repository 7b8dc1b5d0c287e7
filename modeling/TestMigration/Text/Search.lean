/-!
# Finding, cutting and replacing

Leftmost search in a text and the operations built on it. Each is one pass over the list of
characters: a replacement or a cut that consumes several characters carries the number of characters
still to skip, so that the recursion stays on the list itself and needs no measure.
-/

namespace TestMigration.Text

/-- The first position at which `pat` occurs. The empty text occurs at once. -/
def indexOf? (pat : List Char) : List Char → Option Nat
  | [] => if pat.isEmpty then some 0 else none
  | c :: rest => if pat.isPrefixOf (c :: rest) then some 0 else (indexOf? pat rest).map (· + 1)

/-- The first position from `start` on at which `pat` occurs in `text`. -/
def findFrom (pat text : List Char) (start : Nat) : Option Nat :=
  if start ≤ text.length then (indexOf? pat (text.drop start)).map (· + start) else none

def occursIn (pat text : String) : Bool := (indexOf? pat.toList text.toList).isSome

/-- What stands before and after the first occurrence of `pat`. -/
def cutAt? (pat text : List Char) : Option (List Char × List Char) :=
  (indexOf? pat text).map fun i => (text.take i, text.drop (i + pat.length))

/-- A text cut at the first occurrence of `pat`: all of it, and nothing, if there is none. -/
def partition (pat text : String) : String × String :=
  match cutAt? pat.toList text.toList with
  | some (before, after) => (.ofList before, .ofList after)
  | none => (text, "")

/-- The pieces between the occurrences of `pat`, found from the left without overlaps. -/
def splitAtAll (pat : List Char) : List Char → List (List Char) :=
  go [] 0
where
  /-- `piece` holds the current piece backwards, and `skip` counts the characters of an occurrence
  still to be passed. -/
  go (piece : List Char) : Nat → List Char → List (List Char)
    | _, [] => [piece.reverse]
    | skip + 1, _ :: rest => go piece skip rest
    | 0, c :: rest =>
      if pat.isPrefixOf (c :: rest) then piece.reverse :: go [] (pat.length - 1) rest
      else go (c :: piece) 0 rest

def splitOn (pat text : String) : List String :=
  (splitAtAll pat.toList text.toList).map .ofList

/-- Every occurrence of a nonempty `old`, from the left and without overlaps, replaced by `new`. -/
def replaceRuns (old new : List Char) : Nat → List Char → List Char
  | _, [] => []
  | skip + 1, _ :: rest => replaceRuns old new skip rest
  | 0, c :: rest =>
    if old.isPrefixOf (c :: rest) then new ++ replaceRuns old new (old.length - 1) rest
    else c :: replaceRuns old new 0 rest

/-- `new` before every character and at the end. -/
def interleave (new : List Char) : List Char → List Char
  | [] => new
  | c :: rest => new ++ c :: interleave new rest

/-- Every occurrence of `old` replaced by `new`. The empty text occurs before every character and at
the end. -/
def replaceChars (old new text : List Char) : List Char :=
  if old.isEmpty then interleave new text else replaceRuns old new 0 text

def replace (old new text : String) : String :=
  .ofList (replaceChars old.toList new.toList text.toList)

def replaceFirst (old new text : String) : String :=
  match cutAt? old.toList text.toList with
  | some (before, after) => .ofList (before ++ new.toList ++ after)
  | none => text

def startsWith (start text : String) : Bool := start.toList.isPrefixOf text.toList

def endsWith (ending text : String) : Bool := ending.toList.isSuffixOf text.toList

/-- What follows the last `mark`, or the whole text if it has none. -/
def afterLast (mark : Char) (text : String) : String :=
  .ofList (text.toList.reverse.takeWhile (· != mark)).reverse

/-- What precedes the last `mark`, or nothing if there is none. -/
def beforeLast (mark : Char) (text : String) : String :=
  .ofList ((text.toList.reverse.dropWhile (· != mark)).drop 1).reverse

/-- What precedes the first `mark`, or the whole text if it has none. -/
def beforeFirst (mark : Char) (text : String) : String :=
  .ofList (text.toList.takeWhile (· != mark))

/-- What follows the first `mark`, or nothing if there is none. -/
def afterFirst (mark : Char) (text : String) : String :=
  .ofList ((text.toList.dropWhile (· != mark)).drop 1)

/-- The texts one after the other with `sep` between two neighbours. -/
def join (sep : String) : List String → String
  | [] => ""
  | [s] => s
  | s :: rest => s ++ sep ++ join sep rest

def times : Nat → String → String
  | 0, _ => ""
  | n + 1, s => s ++ times n s

/-!
### Templates

A template is text with slots: `$name` and `${name}` stand for the value of `name`, and `$$` for a
dollar sign. A slot whose name has no value stays as it is written, and so does a dollar sign that
opens no slot. What is put into a slot is never looked at again.

Filling is a machine that reads one character at a time and remembers how much of a slot it has
seen; so it is a fold over the template, and the length of a slot's name costs nothing.
-/

namespace Template

/-- How much of a slot has been read. Names are held backwards. -/
inductive State where
  /-- Outside of any slot. -/
  | plain
  | dollar
  /-- In the name of a slot without braces. -/
  | bare (name : List Char)
  | braced (name : List Char)
  deriving DecidableEq, Repr

def isNameStart (c : Char) : Bool := c.isAlpha || c == '_'

/-- Whether a slot's name may go on with this character. -/
def isNameChar (c : Char) : Bool := isNameStart c || c.isDigit

def slot (values : List (String × String)) (name written : List Char) : List Char :=
  match values.lookup (String.ofList name) with
  | some value => value.toList
  | none => written

/-- What is owed for the part of a slot read so far, once no more of it follows. -/
def State.flush (values : List (String × String)) : State → List Char
  | .plain => []
  | .dollar => ['$']
  | .bare name => slot values name.reverse ('$' :: name.reverse)
  | .braced name => '$' :: '{' :: name.reverse

def State.plainStep (c : Char) : State × List Char :=
  if c == '$' then (.dollar, []) else (.plain, [c])

/-- One character: the state after it and the text it adds. -/
def State.step (values : List (String × String)) (state : State) (c : Char) : State × List Char :=
  match state with
  | .plain => plainStep c
  | .dollar =>
    if c == '$' then (.plain, ['$'])
    else if c == '{' then (.braced [], [])
    else if isNameStart c then (.bare [c], [])
    else (.plain, ['$', c])
  | .bare name =>
    if isNameChar c then (.bare (c :: name), [])
    else
      let (next, out) := plainStep c
      (next, State.flush values (.bare name) ++ out)
  | .braced name =>
    if c == '}' && !name.isEmpty then
      (.plain, slot values name.reverse ('$' :: '{' :: name.reverse ++ ['}']))
    else if (if name.isEmpty then isNameStart c else isNameChar c) then (.braced (c :: name), [])
    else
      let (next, out) := plainStep c
      (next, State.flush values (.braced name) ++ out)

def fillFrom (values : List (String × String)) : State → List Char → List Char
  | state, [] => state.flush values
  | state, c :: rest =>
    let (next, out) := state.step values c
    out ++ fillFrom values next rest

end Template

def fill (template : String) (values : List (String × String)) : String :=
  .ofList (Template.fillFrom values .plain template.toList)

end TestMigration.Text
