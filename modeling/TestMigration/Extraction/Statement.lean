import TestMigration.Extraction.Expression
/-!
# Understanding statements

Every statement of a body becomes a list of actions. If something inside of it is not understood,
the whole statement becomes one action that carries its text, with a warning, and the lookups queued
for it are dropped; the statements inside of a condition or an exception handler are statements of
their own, so an error in one of them does not spread.
-/

namespace TestMigration.Extraction

open Syntax TestMigration.Action Text

/-!
### Statements that set up the browser

A variable that is given a browser, a wait, a pointer, a script runner or a page object leaves no
action: what it holds becomes part of the context of the tests.
-/

def producesContext (role : Option MethodRole) : Bool :=
  role == some .setup || role == some .setupAll || role == some .constructor

/-- Records the browser of a driver class, unless one is known. -/
def startBrowser (browser : String) : Extract Unit :=
  modifyContext fun c => { c with browser := if c.browser == "" then browser else c.browser }

/-- Records the timeout of a waiting variable; the first is the default. -/
def recordTimeout (name : String) (seconds : Float) : Extract Unit :=
  modifyContext fun c => { c with
    timeouts := Table.put name seconds c.timeouts
    defaultTimeout := some (c.defaultTimeout.getD seconds) }

def recordPageObject (name typeName : String) : Extract Unit :=
  modifyContext fun c => { c with pageObjects := Table.put name typeName c.pageObjects }

def isContextArg (s : State) (scope : Nat) (a : Expr) : Bool :=
  s.isDriver scope a || match a.stripCasts with
    | .this .. => true
    | _ => false

/-- Takes a new object into the context, if it belongs there. -/
def absorbNew (scope target : Nat) (name typeName : String) (args : List Expr) (field : Bool) :
    Extract Bool := do
  let created := baseType typeName
  match browserOf? created with
  | some browser =>
    startBrowser browser
    define target name { kind := .driver, typeName := created }
    addDriver name
    return true
  | none =>
    if isWaitType created then
      let timeout ← timeoutOfNew? args
      define target name { kind := .wait, typeName := created, timeout }
      match timeout with
      | some seconds => if field || producesContext (← read).role then recordTimeout name seconds
      | none => pure ()
      return true
    else if created == "Actions" then
      define target name { kind := .actions, typeName := created }
      modifyContext fun c => { c with actionsAliases := insertNew name c.actionsAliases }
      return true
    else
      if isProjectType created && args.all (isContextArg (← get) scope) then
        define target name { kind := .pageObject, typeName := created }
        recordPageObject name created
        return true
      else return false

/-- Takes a variable with a value from elsewhere into the context, if it belongs there. -/
def absorbGiven (scope target : Nat) (name typeName : String) (init : Expr) (span : Span) :
    Extract Bool := do
  let t := baseType typeName
  if (← get).isDriver scope init && (isDriverType t || typeName == "") then
    define target name
      { kind := .driver, typeName := if typeName == "" then "WebDriver" else typeName }
    addDriver name
    return true
  else if isDriverType t then
    remark (.driverFrom name (trim init.text)) span
    define target name { kind := .driver, typeName }
    addDriver name
    return true
  else
    match init with
    | .call (some owner) "initElements" _ _ _ =>
      if owner.isName "PageFactory" then
        define target name { kind := .pageObject, typeName := t }
        recordPageObject name t
        return true
      else return false
    | _ => return false

/-- Takes a variable and its value into the context, if they belong there; says whether they did. -/
def absorb (scope : Nat) (name typeName : String) (init : Expr) (span : Span) (field : Bool) :
    Extract Bool := do
  let target := if field then 0 else scope
  match init with
  | .new created args _ _ => absorbNew scope target name created args field
  | .cast castType _ _ _ =>
    if isScriptType (baseType castType) then
      define target name { kind := .script, typeName := castType }
      modifyContext fun c => { c with scriptAliases := insertNew name c.scriptAliases }
      return true
    else absorbGiven scope target name typeName init span
  | _ => absorbGiven scope target name typeName init span

/-! ### Assignments and declarations -/

/-- An element bound to a variable: its handle and its lookup. -/
def boundElement (r : Readers) (scope : Nat) (prov : Provenance) (name : String) (e : Expr) :
    Extract (ElementRef × List Action) := do
  let e := e.stripCasts
  let known : Extract (ElementRef × List Action) := return (← elementOf r scope prov e, [])
  match e with
  | .call target method [arg] _ _ =>
    if isLookup method then
      let parent ← lookupParent r scope prov target
      let ref ← newRef name
      let locator ← r.locator scope arg
      return (ref, [.locate {
        locator, ref, provenance := prov, multiple := method == "findElements", parent }])
    else if method == "get" then
      let source ← requiredElement r scope prov target
      let ref ← newRef name
      let index ← r.value scope arg
      return (ref, [.pick { source, index, ref, provenance := prov }])
    else known
  | _ => known

/-- A variable that is given the result of a wait. -/
def bindWait (r : Readers) (scope : Nat) (prov : Provenance) (name typeName : String)
    (declare : Bool) (target : Option Expr) (args : List Expr) : Extract (List Action) := do
  let w ← waitOf r scope prov target args
  let t := baseType typeName
  let element := isElementType t || t == "var"
  match if element then w.locator else none, if element then w.ref else none with
  | some locator, _ =>
    let ref ← newRef name
    define scope name { kind := .element, typeName, ref := some ref }
    return w.actions ++ [.locate { locator, ref, provenance := prov }]
  | none, some ref =>
    define scope name { kind := .element, typeName, ref := some ref }
    return w.actions
  | none, none =>
    if isElementType t then refuse (.waitResult name)
    else
      define scope name { kind := .value, typeName }
      return w.actions ++
        [.bind { name, value := flagLiteral true, provenance := prov, declare }]

/-- A variable that is given any other value. -/
def bindValue (r : Readers) (scope : Nat) (prov : Provenance) (name typeName : String) (init : Expr)
    (declare : Bool) : Extract (List Action) := do
  let value ← valueOf r scope init
  if declare || ((← get).scopes.lookup scope name).isNone then
    define scope name (if isProjectType typeName then
        { kind := .pageObject, typeName := baseType typeName }
      else { kind := .value, typeName })
  return [.bind { name, value, provenance := prov, declare }]

/-- A variable given the result of a script or of a project method. -/
def bindCall? (r : Readers) (scope : Nat) (prov : Provenance) (name typeName : String)
    (declare : Bool) (e : Expr) : Extract (Option (List Action)) := do
  match e with
  | .call target method args text _ =>
    if isScriptMethod method && target.any ((← get).runsScripts scope) then
      let (code, values) ← scriptOf r scope args
      define scope name { kind := .value, typeName }
      return some [.script { code, args := values, provenance := prov, bind := name, declare }]
    else
      match ← projectCall? r scope target method args text with
      | some call =>
        define scope name (if isProjectType typeName then
            { kind := .pageObject, typeName := baseType typeName }
          else { kind := .value, typeName })
        return some [.delegate { call, provenance := prov, bind := name, declare }]
      | none => return none
  | _ => return none

/-- A variable given a value of an element, a dropdown, a call or anything else. -/
def bindElementOrValue (r : Readers) (scope : Nat) (prov : Provenance) (name typeName : String)
    (init : Expr) (declare : Bool) : Extract (List Action) := do
  let stripped := init.stripCasts
  let other : Extract (List Action) := do
    if (← get).isElement scope stripped then
      let (ref, actions) ← boundElement r scope prov name stripped
      let multiple := baseType typeName == "List" || actions.any fun
        | .locate l => l.multiple
        | _ => false
      define scope name
        { kind := if multiple then .elements else .element, typeName, ref := some ref }
      return actions
    else
      match ← bindCall? r scope prov name typeName declare stripped with
      | some actions => return actions
      | none => bindValue r scope prov name typeName init declare
  match stripped with
  | .new created args _ _ =>
    if baseType created == "Select" then
      match args with
      | [arg] =>
        let (ref, actions) ← boundElement r scope prov name arg
        define scope name { kind := .select, typeName, ref := some ref }
        return actions
      | _ => refuse .selectConstructor
    else other
  | _ => other

def bindVariable (r : Readers) (scope : Nat) (name typeName : String) (init : Option Expr)
    (span : Span) (declare : Bool) : Extract (List Action) := do
  let prov ← provenanceOf span
  match init with
  | none =>
    if isElementType (baseType typeName) || isElementList typeName then
      define scope name { kind := .element, typeName }
      return []
    else
      define scope name { kind := .value, typeName }
      let null : Value := .literal { value := .absent, kind := .null }
      return [.bind { name, value := null, provenance := prov, declare }]
  | some init =>
    if ← absorb scope name typeName init span false then return []
    else if baseType typeName == "By" then
      let locator ← locatorOf r scope init
      define scope name { kind := .by, typeName, locator := some locator }
      return []
    else
      let other := bindElementOrValue r scope prov name typeName init declare
      match init.stripCasts with
      | .call target "until" args _ _ =>
        if target.any ((← get).isWait scope) then
          bindWait r scope prov name typeName declare target args
        else other
      | _ => other

/-- An assignment. A field takes only what the context takes in. -/
def assignment (r : Readers) (scope : Nat) (target value : Expr) (text : String) (span : Span) :
    Extract (List Action) := do
  let qualified := target.ownField?.isSome
  match target.ownField? <|> target.name? with
  | none => refuse (.assignmentTarget (trim text))
  | some name =>
    let s ← get
    let typeName := ((s.bindingOf? scope target).map Binding.typeName).getD ""
    let field := qualified || !s.scopes.isLocal scope name
    if ← absorb scope name typeName value span field then return []
    else if field then refuse (.fieldAssignment name)
    else bindVariable r scope name typeName (some value) span false

/-! ### Calls as statements -/

def callChain : Expr → List (String × List Expr) × Option Expr
  | .call (some target) method args _ _ =>
    let (chain, root) := callChain target
    (chain ++ [(method, args)], root)
  | .call none method args _ _ => ([(method, args)], none)
  | e => ([], some e)

def driverChain? (r : Readers) (scope : Nat) (prov : Provenance) (call : Expr) (args : List Expr)
    (text : String) : Extract (Option (List Action)) := do
  let (chain, root) := callChain call
  let names := chain.map Prod.fst
  let first := names.head?.getD ""
  if !(root.any ((← get).isDriver scope)) || !(first == "navigate" || first == "manage") then
    return none
  let unsupported : Extract (Option (List Action)) := refuse (.driverChain (trim text))
  match names with
  | ["navigate", "to"] =>
    match args with
    | [arg] => return some [.navigate (← valueOf r scope arg) prov]
    | _ => unsupported
  | ["navigate", move] =>
    if ["back", "forward", "refresh"].contains move then return some [.command move [] prov]
    else unsupported
  | ["manage", "window", "maximize"] => return some [.command "maximize" [] prov]
  | ["manage", "deleteAllCookies"] => return some [.command "deleteAllCookies" [] prov]
  | "manage" :: "timeouts" :: _ =>
    if names.getLast? == some "implicitlyWait" then
      let seconds ← match args with
        | arg :: _ => seconds? arg
        | [] => pure none
      match seconds with
      | some x =>
        return some [.command "implicitWait" [.literal { value := .real x, kind := .number }] prov]
      | none => refuse .implicitWait
    else unsupported
  | _ => unsupported

/-- One argument of typing into an element: a key, or a text. -/
def typed (r : Readers) (scope : Nat) (prov : Provenance) (element : ElementRef) (arg : Expr) :
    Extract Action := do
  let text : Extract Action := do
    return .interact
      { element, op := "sendKeys", args := [← valueOf r scope arg], provenance := prov }
  match arg with
  | .fieldAccess target name _ _ =>
    if target.isName "Keys" then
      match keyName? name with
      | some key =>
        return .interact { element, op := "press", args := [textLiteral key], provenance := prov }
      | none => refuse (.key name)
    else text
  | _ => text

def interactions (r : Readers) (scope : Nat) (prov : Provenance) (element : ElementRef)
    (method : String) (args : List Expr) : Extract (List Action) := do
  if method == "sendKeys" then args.mapM (typed r scope prov element)
  else return [.interact { element, op := method, args := [], provenance := prov }]

/-- The steps of a pointer chain; the pointer is at `last`. -/
def pointerSteps (r : Readers) (scope : Nat) (prov : Provenance) :
    Option ElementRef → List (String × List Expr) → Extract (List Action)
  | _, [] => return []
  | last, (method, args) :: rest => do
    if isPointerFiller method then pointerSteps r scope prov last rest
    else
      match pointerOp? method with
      | none => refuse (.pointerStep method)
      | some op =>
        let at? ← match args with
          | arg :: _ => some <$> elementOf r scope prov arg
          | [] => pure last
        match at? with
        | none => refuse (.pointerElement method)
        | some element =>
          let actions ← pointerSteps r scope prov (some element) rest
          if op == "hover" && args.isEmpty then return actions
          else return .interact { element, op, args := [], provenance := prov } :: actions

def pointerChain? (r : Readers) (scope : Nat) (prov : Provenance) (call : Expr) :
    Extract (Option (List Action)) := do
  let (chain, root) := callChain call
  let s ← get
  let isPointer := root.any fun e =>
    match e.stripCasts with
    | .new typeName _ _ _ => baseType typeName == "Actions"
    | e => (s.bindingOfKind? scope .actions e).isSome
  if isPointer then return some (← pointerSteps r scope prov none chain) else return none

def dropdown (r : Readers) (scope : Nat) (prov : Provenance) (target : Option Expr) :
    Extract ElementRef := do
  let s ← get
  let named (e : Expr) : Extract ElementRef :=
    match (s.bindingOfKind? scope .select e).bind Binding.ref with
    | some ref => return ref
    | none => refuse .dropdown
  match target.map Expr.stripCasts with
  | some (.new typeName [arg] text span) =>
    if baseType typeName == "Select" then elementOf r scope prov arg
    else named (.new typeName [arg] text span)
  | some e => named e
  | none => refuse .dropdown

/-- The arguments of an assertion: its message, and what it is about. Frameworks differ in where the
message stands; in one a third number is a tolerance. -/
def assertParts (framework : String) (arity : Nat) (args : List Expr) : Option Expr × List Expr :=
  if framework == "junit5" || framework == "testng" then (args[arity]?, args.take arity)
  else if args.length > arity then
    let isNumber : Expr → Bool
      | .literal .number _ _ _ => true
      | _ => false
    let isText : Expr → Bool
      | .literal .string _ _ _ => true
      | _ => false
    if arity == 2 && args[2]?.any isNumber && !(args[0]?.any isText) then (none, args.take 2)
    else (args.head?, args.drop 1)
  else (none, args)

def assertion (r : Readers) (scope : Nat) (prov : Provenance) (method kind : String)
    (args : List Expr) : Extract Action := do
  let arity := assertArity kind
  if args.length != arity && args.length != arity + 1 then
    refuse (.assertArguments method args.length)
  let framework := (← read).framework
  let (message?, core) := assertParts framework arity args
  let message ← message?.mapM (valueOf r scope)
  match core with
  | [first, second] =>
    let (expectedExpr, actualExpr) :=
      if framework == "testng" then (second, first) else (first, second)
    let actual ← valueOf r scope actualExpr
    let expected ← valueOf r scope expectedExpr
    return .assert { kind, actual, provenance := prov, expected := some expected, message }
  | first :: _ =>
    match kind, ← valueOf r scope first with
    | "true", .contains haystack needle =>
      return .assert {
        kind := "contains", actual := haystack, provenance := prov, expected := some needle,
        message }
    | kind, actual => return .assert { kind, actual, provenance := prov, message }
  | [] => refuse .noExpression

def driverStatement (r : Readers) (scope : Nat) (prov : Provenance) (method : String)
    (args : List Expr) : Extract (List Action) := do
  match method, args with
  | "get", [arg] => return [.navigate (← valueOf r scope arg) prov]
  | "quit", [] => return [.command "quit" [] prov]
  | "close", [] => return [.command "close" [] prov]
  | method, args =>
    if isScriptMethod method then
      let (code, values) ← scriptOf r scope args
      return [.script { code, args := values, provenance := prov }]
    else refuse (.driverCall method)

/-- A call that is neither an assertion nor about the browser. -/
def otherStatement (r : Readers) (scope : Nat) (prov : Provenance) (call : Expr)
    (target : Option Expr) (method : String) (args : List Expr) (text : String) :
    Extract (List Action) := do
  let s ← get
  let delegated : Extract (List Action) := do
    match ← projectCall? r scope target method args text with
    | some c => return [.delegate { call := c, provenance := prov }]
    | none => refuse (.call (trim text))
  let rest : Extract (List Action) := do
    match if isSelection method then args else [] with
    | [arg] =>
      let element ← dropdown r scope prov target
      let value ← valueOf r scope arg
      return [.interact { element, op := method, args := [value], provenance := prov }]
    | _ =>
      if isScriptMethod method && target.any (s.runsScripts scope) then
        let (code, values) ← scriptOf r scope args
        return [.script { code, args := values, provenance := prov }]
      else if isInteraction method && target.any (s.isElement scope) then
        let element ← requiredElement r scope prov target
        interactions r scope prov element method args
      else delegated
  if method == "until" && target.any (s.isWait scope) then
    return (← waitOf r scope prov target args).actions
  else if method == "perform" then
    match ← pointerChain? r scope prov call with
    | some actions => return actions
    | none => rest
  else rest

def callStatement (r : Readers) (scope : Nat) (prov : Provenance) (call : Expr)
    (target : Option Expr) (method : String) (args : List Expr) (text : String) :
    Extract (List Action) := do
  let kind? := if target.all fun t => t.name?.any isAssertClass then assertKind? method else none
  match kind?, target.bind Expr.name?, method, args with
  | some kind, _, _, _ => return [← assertion r scope prov method kind args]
  | none, some "Thread", "sleep", [arg] => return [.pause (← valueOf r scope arg) prov]
  | none, some "PageFactory", "initElements", _ => return []
  | none, _, _, _ =>
    if target.any ((← get).isDriver scope) then driverStatement r scope prov method args
    else
      match ← driverChain? r scope prov call args text with
      | some actions => return actions
      | none => otherStatement r scope prov call target method args text

/-! ### Statements -/

/-- Converts a statement on its own: with an empty queue, an error becoming an action with the
text. -/
def guarded (scope : Nat) (s : Stmt) (convert : Extract (List Action)) : Extract (List Action) := do
  let saved := (← get).pending
  modify fun st => { st with pending := [] }
  let actions ← tryCatch (do
      let actions ← convert
      return (← get).pending ++ actions)
    fun
      | .halted h => halt h
      | .unrecognized cause => do
        report {
          severity := .warning, unitName := (← read).unitName, message := cause.message
          position := some (positionOf s.span), code := "unrecognized_construct" }
        match s with
        | .localVar typeName name _ _ _ =>
          if ((← get).scopes.lookup scope name).isNone then
            define scope name { kind := .value, typeName }
        | _ => pure ()
        return [.verbatim (trim s.text) cause.message (← provenanceOf s.span)]
  modify fun st => { st with pending := saved }
  return actions

/-- Whether a condition only guards against the absence of something tests are given. -/
def isGuard (scope : Nat) (condition : Expr) : Extract Bool := do
  match condition with
  | .binary "!=" left (.literal .null _ _ _) _ _ =>
    match left.ownField? <|> left.name? with
    | none => return false
    | some name =>
      return ((← get).scopes.lookup scope name).any fun b =>
        b.kind == .driver || b.kind == .wait || b.kind == .pageObject || b.kind == .script
          || b.kind == .actions
  | _ => return false

/-- Whether handlers only deal with an interrupted pause. -/
def onlyInterrupted (catches : List Catch) : Bool :=
  catches.all fun c => c.types.all fun t => baseType t == "InterruptedException"

/-- A try statement without its last part, from the actions of its body and its first handler: that
is a fallback, unless only an interrupted pause is handled. -/
def trial (span : Span) (catches : List Catch) (body fallback : Extract (List Action)) :
    Extract (List Action) := do
  let actions ← body
  if onlyInterrupted catches then return actions
  else
    if catches.length > 1 then remark .severalCatches span
    return [.probe actions (← fallback) (← provenanceOf span)]

mutual

/-- The actions of a statement; an error is left to the caller. -/
def convert (scope : Nat) : Stmt → Extract (List Action)
  | .localVar typeName name init _ span =>
    bindVariable (readers ((init.map Expr.depth).getD 0)) scope name typeName init span true
  | .assign target value text span =>
    assignment (readers value.depth) scope target value text span
  | .expr value text span => do
    match value with
    | .call target method args callText _ =>
      callStatement (readers value.depth) scope (← provenanceOf span) value target method args
        callText
    | _ => refuse (.expressionStatement (trim text))
  | .ite condition thenBody elseBody _ span => do
    if ← isGuard scope condition then block (← openScope scope) thenBody
    else
      let value ← valueOf (readers condition.depth) scope condition
      let thenActions ← block (← openScope scope) thenBody
      let elseActions ← block (← openScope scope) elseBody
      return [.branch value thenActions elseActions (← provenanceOf span)]
  | .try body catches none _ span =>
    trial span catches (do block (← openScope scope) body) (firstHandler scope catches)
  | .try body catches (some last) _ span => do
    let actions ← trial span catches (do block (← openScope scope) body)
      (firstHandler scope catches)
    if last.isEmpty then return actions
    else return actions ++ (← block (← openScope scope) last)
  | .ret value _ span => do
    let result ← value.mapM fun e => valueOf (readers e.depth) scope e
    return [.ret result (← provenanceOf span)]
  | .verbatim _ _ reason => do
    if reason == "constructor invocation" && (← read).role == some .constructor then return []
    else refuse (.statement reason)

def firstHandler (scope : Nat) : List Catch → Extract (List Action)
  | [] => return []
  | .mk _ _ body _ :: _ => do block (← openScope scope) body

def block (scope : Nat) : List Stmt → Extract (List Action)
  | [] => return []
  | s :: rest => do
    let actions ← guarded scope s (convert scope s)
    return actions ++ (← block scope rest)

end

end TestMigration.Extraction
