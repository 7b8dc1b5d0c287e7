/-!
# Values inside CSS selectors

A locator value is pasted into a selector either as an identifier (`#id`, `.class`) or inside a
double-quoted attribute value. The two escapes are the serialisations that CSS itself defines: read
back by the rules of CSS, they give the value again, except that the null character comes back as
the replacement character.
-/

namespace TestMigration.Text

/-- Where a value is pasted into a selector. -/
inductive SelectorPlace where
  | identifier
  | string
  deriving DecidableEq, Repr

def SelectorPlace.word : SelectorPlace → String
  | .identifier => "identifier"
  | .string => "string"

def SelectorPlace.ofWord? : String → Option SelectorPlace
  | "identifier" => some .identifier
  | "string" => some .string
  | _ => none

/-- A character as its code point: a backslash, hexadecimal digits and a blank that ends them. -/
def hexEscape (c : Char) : List Char := '\\' :: Nat.toDigits 16 c.toNat ++ [' ']

def isControl (c : Char) : Bool := (1 ≤ c.toNat && c.toNat ≤ 0x1F) || c.toNat == 0x7F

def isIdentifierChar (c : Char) : Bool := 0x80 ≤ c.toNat || c == '-' || c == '_' || c.isAlphanum

/-- One character of an identifier. `leading` says that a digit would end the identifier here: at
its start, or behind a hyphen there. -/
def identifierChar (leading : Bool) (c : Char) : List Char :=
  if c.toNat == 0 then ['�']
  else if isControl c then hexEscape c
  else if c.isDigit && leading then hexEscape c
  else if isIdentifierChar c then [c]
  else ['\\', c]

/-- A text as a CSS identifier. A hyphen alone is escaped, since it is no identifier. -/
def cssIdentifier : List Char → List Char
  | [] => []
  | ['-'] => ['\\', '-']
  | '-' :: c :: rest => '-' :: identifierChar true c ++ rest.flatMap (identifierChar false)
  | c :: rest => identifierChar true c ++ rest.flatMap (identifierChar false)

def cssStringChar (c : Char) : List Char :=
  if c.toNat == 0 then ['�']
  else if isControl c then hexEscape c
  else if c == '"' || c == '\\' then ['\\', c]
  else [c]

/-- A text for use inside a double-quoted CSS string. -/
def cssString (cs : List Char) : List Char := cs.flatMap cssStringChar

/-- A locator value escaped for its place in a selector; with no place it is pasted as it is. -/
def escapeFor (place : Option SelectorPlace) (value : String) : String :=
  match place with
  | some .identifier => .ofList (cssIdentifier value.toList)
  | some .string => .ofList (cssString value.toList)
  | none => value

end TestMigration.Text
