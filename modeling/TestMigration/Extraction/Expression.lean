import TestMigration.Extraction.State
/-!
# Understanding expressions

An expression is read in four ways: as a value, as an element, as a locator, and, if it is a call of
`until`, as a wait. The four refer to each other, always for parts of the expression. The readers of
smaller expressions are given as a record, so that every reader below is an ordinary function, and
the knot is tied once at the end, with a supply that the depth of the expression determines.

An element that is looked up where it is used has no statement of its own. Its lookup is queued, and
the statement that is being read puts the queue in front of itself.
-/

namespace TestMigration.Extraction

open Syntax TestMigration.Action Text

structure Readers where
  value : Nat → Expr → Extract Value
  element : Nat → Provenance → Expr → Extract ElementRef
  locator : Nat → Expr → Extract Locator

/-- A literal as a value; a character is a text. -/
def literalOf (kind : LiteralKind) (value : Scalar) : Literal :=
  { value, kind := if kind == .char then .string else kind }

def textLiteral (s : String) : Value := .literal { value := .text s }

def flagLiteral (b : Bool) : Value := .literal { value := .flag b, kind := .boolean }

/-! ### Locators and scripts -/

/-- A locator: a call of a locator method, or a name of one. -/
def locatorOf (r : Readers) (scope : Nat) (e : Expr) : Extract Locator := do
  let e := e.stripCasts
  let named : Extract Locator := do
    match (← get).bindingOfKind? scope .by e with
    | some { locator := some l, .. } => return l
    | _ => refuse (.locator (trim e.text))
  match e with
  | .call (some target) method args _ _ =>
    if target.isName "By" then
      match locatorStrategy? method, args with
      | some strategy, [arg] => return { strategy, value := ← r.value scope arg }
      | _, _ => refuse (.locatorMethod method)
    else named
  | _ => named

def scriptOf (r : Readers) (scope : Nat) (args : List Expr) : Extract (String × List Value) := do
  match args with
  | [] => refuse .noScript
  | .literal .string code _ _ :: rest => return (code.plain, ← rest.mapM (r.value scope))
  | _ => refuse .computedScript

/-! ### Calls of the project -/

/-- The project method that a call means: its type, the style of the call and the receiver. -/
def callTarget? (target : Option Expr) (method : String) (scope : Nat) :
    Extract (Option (String × CallStyle × String)) := do
  let c ← read
  let onSelf (isBare : Bool) : Option (String × CallStyle × String) :=
    let declared := c.decl.methods.any fun m => m.name == method && !m.isConstructor
    let owner := if isBare && !declared then staticImportOwner c.imports method else ""
    let inherited := c.decl.superclass.any fun s => s != "" && isProjectType s
    if owner != "" then some (owner, .static, "")
    else if declared || inherited then some (c.decl.name, .self, "")
    else none
  match target with
  | none => return if (assertKind? method).isSome then none else onSelf true
  | some (.this ..) => return onSelf false
  | some target =>
    match target.ownField? <|> target.name? with
    | none => return none
    | some name =>
      match (← get).bindingOf? scope target with
      | some b =>
        return if b.kind == .pageObject || (b.kind == .value && isProjectType b.typeName) then
          some (baseType b.typeName, .onVariable, name) else none
      | none => return if isProjectType name then some (name, .static, "") else none

def projectCall? (r : Readers) (scope : Nat) (target : Option Expr) (method : String)
    (args : List Expr) (text : String) : Extract (Option Call) := do
  match ← callTarget? target method scope with
  | none => return none
  | some (targetType, style, receiver) =>
    let values ← args.mapM (r.value scope)
    modify fun s => { s with calls := s.calls + 1 }
    let id := (← read).unitName ++ "#" ++ toString (← get).calls
    return some (.mk id targetType method values style receiver (trim text))

/-! ### Waits -/

def waitSeconds (scope : Nat) (target : Option Expr) : Extract Float := do
  let s ← get
  let fallback := s.context.defaultTimeout.getD defaultSeconds
  match target.map Expr.stripCasts with
  | some (.new _ args _ _) => return (← timeoutOfNew? args).getD fallback
  | some e =>
    match e.ownField? <|> e.name? with
    | none => return fallback
    | some name =>
      let known := (s.bindingOf? scope e).bind Binding.timeout
      return (known <|> Table.get? name s.context.timeouts).getD fallback
  | none => return fallback

/-- What a call that runs a script is given, seen through one conversion to text. -/
def scriptArgs? (e : Expr) : Option (List Expr) :=
  let args? : Expr → Option (List Expr)
    | .call _ method args _ _ => if isScriptMethod method then some args else none
    | _ => none
  match e.stripCasts with
  | .call (some target) "toString" _ _ _ => args? target
  | e => args? e

def isScriptCall (e : Option Expr) : Bool := (e.bind scriptArgs?).isSome

def lambdaResult : LambdaBody → Extract Expr
  | .expr value => return value
  | .block [.ret (some value) _ _] => return value
  | .block _ => refuse .lambdaBody

/-- A wait for a script to give a value, as a lambda that compares the two. -/
def scriptWait (r : Readers) (scope : Nat) (prov : Provenance) (seconds : Float)
    (params : List String) (body : LambdaBody) (text : String) : Extract Wait := do
  let result ← lambdaResult body
  let inner ← openScope scope
  params.forM fun p => define inner p { kind := .driver, typeName := "WebDriver" }
  match result.stripCasts with
  | .call target "equals" [arg] _ _ =>
    let (scriptSide, expected) :=
      if isScriptCall target then (target, some arg) else (some arg, target)
    -- what the script is compared with is seen through a cast and one conversion to text
    let scriptSide := match scriptSide.map Expr.stripCasts with
      | some (.call side "toString" _ _ _) => side
      | side => side
    if isScriptCall scriptSide then
      let (code, _) ← match scriptSide with
        | some (.call _ _ args _ _) => scriptOf r inner args
        | _ => halt .castScript
      match expected with
      | some e =>
        let value ← r.value inner e
        return { condition := "scriptReturns", seconds, provenance := prov
                 args := [textLiteral code, value] }
      | none => refuse .noExpression
    else refuse (.lambda (trim text))
  | _ => refuse (.lambda (trim text))

/-- A wait that was understood: its actions, its element and the locator. -/
structure WaitReading where
  actions : List Action
  ref : Option ElementRef := none
  locator : Option Locator := none

/-- A call of `until`. An unknown condition is kept, to be reported later. -/
def waitOf (r : Readers) (scope : Nat) (prov : Provenance) (target : Option Expr)
    (args : List Expr) : Extract WaitReading := do
  match args with
  | [arg] =>
    let seconds ← waitSeconds scope target
    match arg.stripCasts with
    | .lambda params body text _ =>
      return { actions := [.wait (← scriptWait r scope prov seconds params body text)] }
    | .call owner method conditionArgs text _ =>
      if !(owner.all (·.isName "ExpectedConditions")) then refuse (.waitCondition (trim text))
      else
        match waitCondition? method with
        | none => return { actions := [.wait { condition := method, seconds, provenance := prov }] }
        | some (condition, shape) =>
          match conditionArgs with
          | [] => refuse (.waitArgument method)
          | first :: _ =>
            let byLocator := shape == .locator ||
              (shape == .either && (← ask (·.isLocator scope first)))
            if byLocator then
              let locator ← r.locator scope first
              let ref ← newRef ""
              return {
                actions := [.locate { locator, ref, provenance := prov, inline := true },
                  .wait { condition, seconds, provenance := prov, target := some ref }]
                ref := some ref, locator := some locator }
            else if shape == .page then
              let values ← conditionArgs.mapM (r.value scope)
              return {
                actions := [.wait { condition, seconds, provenance := prov, args := values }] }
            else
              let ref ← r.element scope prov first
              return {
                actions := [.wait { condition, seconds, provenance := prov, target := some ref }]
                ref := some ref }
    | other => refuse (.waitCondition (trim other.text))
  | _ => refuse .untilArguments

/-! ### Elements -/

def requiredElement (r : Readers) (scope : Nat) (prov : Provenance) (e : Option Expr) :
    Extract ElementRef :=
  match e with
  | some e => r.element scope prov e
  | none => refuse .noElement

/-- The element that a lookup starts from; none if it is the page. -/
def lookupParent (r : Readers) (scope : Nat) (prov : Provenance) (target : Option Expr) :
    Extract (Option ElementRef) := do
  if target.any ((← get).isDriver scope) then return none
  else return some (← requiredElement r scope prov target)

def elementOf (r : Readers) (scope : Nat) (prov : Provenance) (e : Expr) : Extract ElementRef := do
  let e := e.stripCasts
  let s ← get
  match s.bindingOf? scope e with
  | some b =>
    match if b.isElement then b.ref else none with
    | some ref => return ref
    | none => refuse (.notElement (trim e.text))
  | none =>
    match e with
    | .call target method args text _ =>
      let unknown : Extract ElementRef := refuse (.element (trim text))
      match args with
      | [arg] =>
        if isLookup method then
          let parent ← lookupParent r scope prov target
          let ref ← newRef ""
          let locator ← r.locator scope arg
          queue [.locate {
            locator, ref, provenance := prov, multiple := method == "findElements", parent
            inline := true }]
          return ref
        else if method == "get" then
          let source ← requiredElement r scope prov target
          let ref ← newRef ""
          let index ← r.value scope arg
          queue [.pick { source, index, ref, provenance := prov, inline := true }]
          return ref
        else if method == "until" && target.any (s.isWait scope) then
          let w ← waitOf r scope prov target args
          queue w.actions
          match w.ref with
          | some ref => return ref
          | none => unknown
        else unknown
      | _ =>
        if method == "until" && target.any (s.isWait scope) then
          let _ ← waitOf r scope prov target args
          unknown
        else unknown
    | _ => refuse (.element (trim e.text))

/-! ### Values -/

def nameValue (scope : Nat) (name : String) (e : Expr) : Extract Value := do
  match (← get).bindingOf? scope e with
  | none => refuse (.unknownName name)
  | some b =>
    if b.isElement then
      match b.ref with
      | some ref => return .element ref
      | none => refuse (.beforeLookup name)
    else
      match b.kind with
      | .driver => return .driver
      | .value | .pageObject => return .variable name
      | _ => refuse (.notValue name)

def callValue (r : Readers) (scope : Nat) (call : Expr) (target : Option Expr) (method : String)
    (args : List Expr) (text : String) (span : Span) : Extract Value := do
  let prov ← provenanceOf span
  let s ← get
  let onElement := target.any (s.isElement scope)
  let single : Option (Expr × Expr) :=
    match target, args with
    | some t, [arg] => some (t, arg)
    | _, _ => none
  let otherwise : Extract Value := do
    match ← projectCall? r scope target method args text with
    | some c => return .call c
    | none => refuse (.call (trim text))
  let scripted : Extract Value := do
    if isScriptMethod method && target.any fun t => s.runsScripts scope t || s.isDriver scope t then
      let (code, values) ← scriptOf r scope args
      return .script code values
    else otherwise
  if (isLookup method || method == "get" || method == "until") && s.isElement scope call then
    return .element (← elementOf r scope prov call)
  else if method == "until" && target.any (s.isWait scope) then
    let w ← waitOf r scope prov target args
    queue w.actions
    return flagLiteral true
  else if (elementQuery? method).isSome && onElement then
    let ref ← requiredElement r scope prov target
    let query := (elementQuery? method).getD ""
    match if query == "attribute" then args.head? else none with
    | some arg => return .elementQuery ref query (some (← r.value scope arg))
    | none => return .elementQuery ref query none
  else if (method == "size" || method == "isEmpty") && args.isEmpty && onElement then
    let ref ← requiredElement r scope prov target
    let count := Value.elementQuery ref "count" none
    return if method == "size" then count
      else .binary "==" count (.literal { value := .int 0, kind := .number })
  else if target.any (s.isDriver scope) && (pageQuery? method).isSome && args.isEmpty then
    return .pageQuery ((pageQuery? method).getD "")
  else if method == "getFirstSelectedOption"
      && (target.bind (s.bindingOfKind? scope .select)).isSome then
    refuse .selectedOption
  else
    match method, single with
    | "contains", some (t, arg) => return .contains (← r.value scope t) (← r.value scope arg)
    | "equals", some (t, arg) => return .binary "==" (← r.value scope t) (← r.value scope arg)
    | _, _ =>
      match target with
      | some t => if isUnboxing method && args.isEmpty then r.value scope t else scripted
      | none => scripted

/-- A signed or negated value. Only a literal number can be signed. -/
def unaryValue (op : String) (operand : Value) : Extract Value :=
  match op, operand with
  | "!", v => return .not v
  | "-", .literal { value, kind := .number } =>
    match value with
    | .flag b => return .literal { value := .int (if b then -1 else 0), kind := .number }
    | value =>
      match value.negate? with
      | some negative => return .literal { value := negative, kind := .number }
      | none => halt .noNumber
  | op, _ => refuse (.operator op)

def valueOf (r : Readers) (scope : Nat) (e : Expr) : Extract Value := do
  match e with
  | .literal kind value _ _ => return .literal (literalOf kind value)
  | .name name _ _ => nameValue scope name e
  | .fieldAccess _ name text _ =>
    match e.ownField? with
    | some _ => nameValue scope name e
    | none => refuse (.expression (trim text))
  | .this .. => return .variable "this"
  | .cast _ operand _ _ => r.value scope operand
  | .binary op left right _ _ =>
    if isOperator op then return .binary op (← r.value scope left) (← r.value scope right)
    else refuse (.operator op)
  | .unary op operand _ _ => unaryValue op (← r.value scope operand)
  | .new typeName args text _ =>
    if isProjectType typeName then
      return .construct (baseType typeName) (← args.mapM (r.value scope))
    else refuse (.creation (trim text))
  | .call target method args text span => callValue r scope e target method args text span
  | .lambda _ _ text _ | .verbatim text _ => refuse (.expression (trim text))

/-! ### The readers -/

/-- The readers for expressions that nest at most `n` deep. -/
def readers : Nat → Readers
  | 0 => {
      value := fun _ _ => refuse .noExpression
      element := fun _ _ _ => refuse .noElement
      locator := fun _ _ => refuse .noExpression }
  | n + 1 => {
      value := valueOf (readers n)
      element := elementOf (readers n)
      locator := locatorOf (readers n) }

end TestMigration.Extraction
