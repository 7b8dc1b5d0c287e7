import TestMigration.Rendering.Session
/-!
# Values in the target language

The text of a value is built from the templates of the profile by recursion on the value. In one
place the recursion leaves the value: an element of a field, used outside of its page object, is
written as the locator of the field, which contains a value in turn. The text of such a field is
therefore a parameter, supplied for one level of fields after the other; a field that is reached on
more levels than there are fields is defined through itself.

An operand that holds a blank outside of quotes and brackets could be taken apart by the operators
around it, so it is put in parentheses (`Text.group`).
-/

namespace TestMigration.Text

/-- What the scan of an operand remembers. -/
structure OperandScan where
  /-- Opening brackets minus closing ones. -/
  depth : Int := 0
  quote : Option Char := none
  /-- Whether the next character follows a backslash inside a quote. -/
  escaped : Bool := false
  deriving DecidableEq, Repr

def isQuote (c : Char) : Bool := c == '\'' || c == '"' || c == '\x60'

def isOpening (c : Char) : Bool := c == '(' || c == '[' || c == '{'

def isClosing (c : Char) : Bool := c == ')' || c == ']' || c == '}'

def OperandScan.step (scan : OperandScan) (c : Char) : OperandScan :=
  match scan.quote with
  | some q =>
    if scan.escaped then { scan with escaped := false }
    else if c == '\\' then { scan with escaped := true }
    else if c == q then { scan with quote := none }
    else scan
  | none =>
    if isQuote c then { scan with quote := some c }
    else if isOpening c then { scan with depth := scan.depth + 1 }
    else if isClosing c then { scan with depth := scan.depth - 1 }
    else scan

def OperandScan.cuts (scan : OperandScan) (c : Char) : Bool :=
  scan.quote.isNone && !isQuote c && !isOpening c && !isClosing c && isBlank c && scan.depth == 0

/-- Whether no blank stands at the top level from here on. -/
def isAtomicFrom : OperandScan → List Char → Bool
  | _, [] => true
  | scan, c :: rest => !scan.cuts c && isAtomicFrom (scan.step c) rest

/-- Whether a text has no blank outside of quotes and brackets. -/
def isAtomic (text : String) : Bool := isAtomicFrom {} text.toList

/-- An operand, in parentheses unless it is atomic. -/
def group (text : String) : String := if isAtomic text then text else "(" ++ text ++ ")"

end TestMigration.Text

namespace TestMigration.Rendering

open TestMigration.Action Text Profile

/-! ### Texts without recursion -/

def Literal.text (p : Phrases) (l : Literal) : String :=
  if l.kind = .null || l.value = .absent then p.nullWord
  else match l.kind with
    | .boolean => if l.value.isTrue then p.trueWord else p.falseWord
    | .number => l.value.number
    | _ => quote l.value.plain p.quote

def Literal.showsValue (l : Literal) : Bool := l.kind != .null && l.kind != .boolean

def literal (l : Literal) : Render String := do
  if Literal.showsValue l && !l.value.isWritable then throw (.halted .numberTooLong)
  return Literal.text (← phrases) l

/-- A variable: a parameter of a spliced method, a local variable, a constant, or a member. -/
def variableText (name : String) : Render String := do
  let f ← frame
  let p ← phrases
  let target ← ident name
  if name == "this" then
    if f.mode = .page then return p.selfRef else refuse .thisOutside
  match Table.get? name f.subst with
  | some text => return text
  | none =>
    if f.declared.contains name || f.params.contains name then return target
    match f.unit.constants.find? (·.name == name) with
    | some constant =>
      if f.unit.unitName == (← read).unit.unitName then return target else literal constant.value
    | none => return if f.mode = .page then p.selfRef ++ "." ++ target else target

def receiverText (name : String) : Render String := do
  let f ← frame
  let target ← ident name
  match Table.get? name f.subst with
  | some text => return text
  | none =>
    if f.mode = .page && !f.declared.contains name && !f.params.contains name then
      return (← phrases).selfRef ++ "." ++ target
    else return target

def queryTemplate (query : String) : Render String := do
  let p ← profile
  match Table.get? query p.queries with
  | some template => return template
  | none => refuse (.noQuery p.name query)

def pageQuery (query : String) : Render String := do
  let p ← profile
  match Table.get? query p.pageQueries with
  | some template => return fill template [("page", (← frame).page)]
  | none => refuse (.noPageQuery p.name query)

/-- The locator of a field, in a unit or the nearest of its superclasses. -/
def fieldLocator (name : String) (u : SourceUnit) : Render (Option LocatorField) := do
  let chain ← liftHalt ((← read).model.superclassChain u.unitName)
  return (u :: chain).findSome? fun v => v.locatorFields.find? (·.name == name)

/-- An element that nothing in the body stands for: a parameter, or one never located. -/
def freeElement (ref : ElementRef) : Render String := do
  if ref.origin = .param then
    return (Table.get? ref.name (← frame).subst).getD (← ident ref.name)
  else refuse (.notLocated (if ref.name.isEmpty then ref.id else ref.name))

/-- An element, where `field` writes the element of a field. -/
def element (field : LocatorField → Render String) (ref : ElementRef) : Render String := do
  let f ← frame
  match Table.get? ref.id f.elements with
  | some text => return text
  | none =>
    if ref.origin = .field then
      if f.mode = .page then return (← phrases).selfRef ++ "." ++ (← ident ref.name)
      match ← fieldLocator ref.name f.unit with
      | some found => field found
      | none => freeElement ref
    else freeElement ref

/-! ### Calls -/

def callName (c : Call) : String := if c.sourceText.isEmpty then c.method else c.sourceText

def resolveCall (c : Call) (position : Option Position := none) : Render MethodKey := do
  match (← read).model.resolve? c with
  | some key => return key
  | none => refuse (.unresolved (callName c)) position

/-- The unit and the method a call leads to. A call inside of a value can only be written as
a call. -/
def callTarget (c : Call) : Render (SourceUnit × Method) := do
  let env ← read
  if env.strategy = .inline then refuse (.callAsValue (callName c))
  let key ← resolveCall c
  let target ← liftHalt (env.model.unit key.unitName)
  let method ← liftHalt (env.model.method key)
  return (target, method)

/-- What stands before the name of a method of a page object. -/
def callReceiver (c : Call) (target : SourceUnit) (method : Method) : Render String := do
  if method.static then
    needClass target
    return target.simpleName
  else if c.style = .self then
    if (← frame).mode = .page then return (← phrases).selfRef
    else refuse (.selfCallOutside c.method)
  else receiverText c.receiver

/-- A call whose arguments have been written. -/
def callText (c : Call) (target : SourceUnit) (method : Method) (args : List String) :
    Render String := do
  let name ← ident method.name
  let expression ←
    if target.kind = .pageObject then do
      let receiver ← callReceiver c target method
      pure (receiver ++ "." ++ name ++ "(" ++ join ", " args ++ ")")
    else do
      let page := (← frame).page
      let args := if implicitPage method then page :: args else args
      let plain := name ++ "(" ++ join ", " args ++ ")"
      if target.unitName == (← read).unit.unitName then pure plain
      else if c.style = .self then do
        needFunction target name
        pure plain
      else do
        let owner ← needModule target
        pure (owner ++ "." ++ plain)
  return fill (← phrases).await [("expression", expression)]

/-! ### Scripts -/

def scriptParts (code : String) (args : List String) : Render (List (String × String)) := do
  let p ← profile
  let body := replace "arguments[" (p.script.params ++ "[") code
  let function := fill p.script.function [("params", p.script.params), ("code", body)]
  let argsPart :=
    if args.isEmpty then "" else ", " ++ fill p.phrases.list [("items", join ", " args)]
  note "script" ("script calls run through the " ++ p.displayName ++ " script bridge: "
    ++ p.script.semantics)
  return [("page", (← frame).page), ("function", function),
    ("function_str", quote function p.phrases.quote), ("args_part", argsPart)]

/-! ### The recursion -/

def constructed (typeName : String) : Render SourceUnit := do
  match ← pageObjectFor typeName (← frame).unit with
  | some target =>
    needClass target
    return target
  | none => refuse (.noConstruction typeName)

mutual

def value (field : LocatorField → Render String) : Value → Render String
  | .literal l => literal l
  | .variable name => variableText name
  | .driver => return (← frame).page
  | .element ref => element field ref
  | .elementQuery ref query none => do
    let template ← queryTemplate query
    return fill template [("element", ← element field ref), ("arg0", "")]
  | .elementQuery ref query (some arg) => do
    let template ← queryTemplate query
    let argument ← value field arg
    return fill template [("element", ← element field ref), ("arg0", argument)]
  | .pageQuery query => pageQuery query
  | .not operand => do
    let text ← value field operand
    return fill (← phrases).not [("operand", group text)]
  | .binary op left right => do
    let operator := (Table.get? op (← phrases).operators).getD op
    let before ← value field left
    let after ← value field right
    return group before ++ " " ++ operator ++ " " ++ group after
  | .contains haystack needle => do
    let whole ← value field haystack
    let part ← value field needle
    return fill (← phrases).contains [("haystack", group whole), ("needle", group part)]
  | .call (.mk id targetType method args style receiver sourceText) => do
    let c : Call := .mk id targetType method args style receiver sourceText
    let (target, found) ← callTarget c
    callText c target found (← valueList field args)
  | .script code args => do
    let parts ← scriptParts code (← scriptArgs field args)
    return fill (← profile).script.expression parts
  | .construct typeName args => do
    let target ← constructed typeName
    let args ← valueList field args
    return fill (← phrases).construct [("type", target.simpleName), ("args", join ", " args)]
  | .verbatim text => throw (.untranslatable text)

def valueList (field : LocatorField → Render String) : List Value → Render (List String)
  | [] => return []
  | v :: rest => do
    let text ← value field v
    return text :: (← valueList field rest)

/-- The arguments of a script, where elements are passed in a way of their own. -/
def scriptArgs (field : LocatorField → Render String) : List Value → Render (List String)
  | [] => return []
  | .element ref :: rest => do
    let text := fill (← profile).script.elementArg [("element", ← element field ref)]
    return text :: (← scriptArgs field rest)
  | v :: rest => do
    let text ← value field v
    return text :: (← scriptArgs field rest)

end

/-! ### Locators -/

/-- The selector for a value: one quoted text if the value is known, else a sum of texts. -/
def selector (field : LocatorField → Render String) (template : String)
    (escape : Option SelectorPlace) (v : Value) : Render String := do
  let mark := (← phrases).quote
  if !occursIn "$value" template then return quote template mark
  let (before, after) := partition "$value" template
  let computed : Render String := do
    if escape.isSome then
      note "selector-escape"
        "locator values computed at run time are inserted into CSS selectors unescaped"
    let text ← value field v
    let quoted (part : String) : List String := if part.isEmpty then [] else [quote part mark]
    return join " + " (quoted before ++ [group text] ++ quoted after)
  match v with
  | .literal l =>
    if l.kind = .string then return quote (before ++ escapeFor escape l.value.plain ++ after) mark
    else computed
  | _ => computed

def locatorExpression (field : LocatorField → Render String) (l : Locator) (scope : String)
    (p : Provenance) : Render String := do
  let shapes := (← profile).locators
  match Table.get? l.strategy shapes.strategies with
  | none => refuseAt p (.noStrategy (← profile).name l.strategy)
  | some template =>
    match template.shape with
    | .expression e => return fill e [("scope", scope), ("value", ← value field l.value)]
    | .selector s =>
      let text ← selector field s template.escape l.value
      return fill shapes.locate [("scope", scope), ("selector", text)]

def fieldElement : Nat → LocatorField → Render String
  | 0, f => throw (.halted (.circularLocator f.name))
  | n + 1, f => do
    let page := (← frame).page
    let text ← locatorExpression (fieldElement n) f.locator page f.provenance
    trace .locator f.provenance text (some f.locator) page
    return text

def fieldCount : Render Nat := do
  let units := (← frame).unit :: (← read).model.units
  return units.foldl (fun n u => n + u.locatorFields.length) 0

def fieldText (f : LocatorField) : Render String := do fieldElement ((← fieldCount) + 1) f

def valueText (v : Value) : Render String := value fieldText v

def elementText (ref : ElementRef) : Render String := element fieldText ref

def locatorText (l : Locator) (scope : String) (p : Provenance) : Render String :=
  locatorExpression fieldText l scope p

end TestMigration.Rendering
