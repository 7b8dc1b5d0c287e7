import TestMigration.Rendering.Body
import TestMigration.Rendering.Parity
import TestMigration.Text.Path
/-!
# Whole files

A unit becomes one file: a header, the imports it turned out to need, and its sections. A test class
becomes a suite with hooks and tests, a page object a class, and anything else a module of
functions. The imports are known only after the sections have been rendered, so the head is put
together last.
-/

namespace TestMigration.Rendering

open TestMigration.Action Text Profile

/-- A written file. -/
structure OutputUnit where
  qualifiedName : String
  path : String
  kind : UnitKind
  /-- The source it was converted from; empty for a file that belongs to the whole run. -/
  source : String
  text : String
  deriving DecidableEq, Repr

/-- The path of the file of a unit. -/
def outputPath (p : Profile) (u : SourceUnit) : Except Halt String :=
  match Table.get? u.kind.word p.paths with
  | none => .error (.noPath u.kind.word)
  | some template =>
    let name := fill template
      [("name", u.simpleName), ("module", p.naming.moduleName u.simpleName)]
    let directory := Path.directory u.unitName
    .ok (if directory.isEmpty then name else Path.append directory name)

def dotted (path : String) : String := replace "/" "." (Path.stem path)

/-! ### Pieces of declarations -/

/-- A type in the target language; empty if it has none. -/
def typeText (typeName : String) : Render String := do
  let env ← read
  let types := env.profile.types
  let base := Extraction.baseType typeName
  match (Table.get? typeName types).or (Table.get? base types) with
  | some text => return text
  | none =>
    match ← (if base.isEmpty then pure none else pageObjectFor base env.unit) with
    | some target =>
      needClass target
      return target.simpleName
    | none => return (Table.get? "default" types).getD ""

def paramText (name typeName : String) : Render String := do
  let files := (← profile).files
  let type ← typeText typeName
  if type.isEmpty then return fill files.untypedParam [("name", name)]
  else return fill files.param [("name", name), ("type", type)]

/-- The parameters of a method that stand after the page and the object itself. -/
def paramTexts : List Param → Render (List String)
  | [] => return []
  | p :: rest => do
    let text ←
      if isDriverParam p then pure (← profile).files.pageParam
      else paramText (← ident p.name) p.typeName
    return text :: (← paramTexts rest)

def paramList (m : Method) (pageParam selfParam : Bool) : Render String := do
  let files := (← profile).files
  let texts ← paramTexts m.params
  return join ", "
    ((if selfParam && !files.selfParam.isEmpty then [files.selfParam] else [])
      ++ (if pageParam then [files.pageParam] else []) ++ texts)

def paramNames (m : Method) : List String := (m.params.filter (!isDriverParam ·)).map (·.name)

def returnText (m : Method) : Render String := do
  let files := (← profile).files
  let type ← if m.returnsValue then typeText m.returnType else pure files.voidType
  if type.isEmpty || files.returnType.isEmpty then return ""
  else return fill files.returnType [("type", type)]

/-- The superclasses of the unit, the nearest first. -/
def superclasses : Render (List SourceUnit) := do
  let env ← read
  liftHalt (env.model.superclassChain env.unit.unitName)

/-- The page objects of the setups of a unit and its superclasses; the nearest setup counts. -/
def contextObjects : Render (Table String String) := do
  let chain := (← read).unit :: (← superclasses)
  return chain.reverse.foldl (fun t u => Table.merge t u.context.pageObjects) []

/-- Renders a body in a new frame; gives the variables declared in the end. -/
def renderBody (actions : List Action) (f : Frame) : Render (List String) := do
  let objects ← if f.mode = .test || f.mode = .function then contextObjects else pure []
  inFrame { f with contextObjects := objects } do
    body actions
    return (← frame).declared

def endBlock (before : Nat) (closing : String) : Render Unit := do
  let filler := (← phrases).emptyBlock
  if (← statements) = before && !filler.isEmpty then indented (line filler)
  if !closing.isEmpty then line closing

def lineGroup {α : Type} (level : Nat) (x : Render α) : Render (α × Code) := do
  let outer := (← get).code
  let indent := (← phrases).indent
  modifyCode fun _ => { indent, level }
  let result ← x
  let inner := (← get).code
  modifyCode fun _ => outer
  return (result, inner)

def fileSection (level : Nat) (x : Render Unit) : Render Code := return (← lineGroup level x).2

/-! ### Constants and functions -/

def constantSections : Render (List Code) := do
  let env ← read
  if env.unit.constants.isEmpty then return []
  let code ← fileSection 0 (env.unit.constants.forM fun c => do
    line (fill env.profile.files.constant
      [("name", ← ident c.name), ("value", ← literal c.value)]))
  return [code]

/-- The lines of a function of a module. -/
def functionLines (m : Method) : Render Unit := do
  let env ← read
  let files := env.profile.files
  let params ← paramList m (implicitPage m) false
  let returns ← returnText m
  line (fill files.functionOpen
    [("name", ← ident m.name), ("params", params), ("returns", returns)])
  let before ← statements
  indented do
    let _ ← renderBody m.actions
      { unit := env.unit, mode := .function, page := env.profile.pageRef
        body := env.unit.simpleName ++ "." ++ m.name ++ "/" ++ toString m.arity
        params := paramNames m }
  endBlock before files.functionClose

def functionSections : List Method → Render (List Code)
  | [] => return []
  | m :: rest => do
    let code ← fileSection 0 (functionLines m)
    return code :: (← functionSections rest)

/-! ### Test classes -/

/-- The bodies of a hook, which share their declarations. -/
def hookBodies (label : String) : List String → List (SourceUnit × Method) → Render Unit
  | _, [] => return
  | declared, (u, m) :: rest => do
    let declared ← renderBody m.actions
      { unit := u, mode := .test, page := (← profile).pageRef
        body := label ++ ":" ++ u.simpleName ++ "." ++ m.name, declared }
    hookBodies label declared rest

/-- One hook in a block of its own; none if nothing is left of its bodies. -/
def hookBlock (template label : String) (methods : List (SourceUnit × Method)) (level : Nat) :
    Render (Option Code) := do
  if methods.all fun m => m.2.actions.isEmpty then return none
  let (written, code) ← lineGroup level do
    line template
    let opened ← lineCount
    indented (hookBodies label [] methods)
    if (← lineCount) = opened then return false
    line (← profile).files.hookClose
    return true
  return if written then some code else none

/-- Both hooks in one block; none if nothing is left of their bodies. -/
def hookFixture (setups teardowns : List (SourceUnit × Method)) (level : Nat) :
    Render (Option Code) := do
  let files := (← profile).files
  if (setups ++ teardowns).all fun m => m.2.actions.isEmpty then return none
  let (written, code) ← lineGroup level do
    line files.hooksOpen
    let opened ← lineCount
    indented (hookBodies "setup" [] setups)
    let rendered ← lineCount
    indented do
      line files.hooksYield
      hookBodies "teardown" [] teardowns
    if rendered = opened && (← lineCount) = rendered + 1 then return false
    if !files.hookClose.isEmpty then line files.hookClose
    return true
  return if written then some code else none

def testLines (t : TestCase) : Render Unit := do
  let env ← read
  let files := env.profile.files
  let title := if t.displayName.isEmpty then t.name else t.displayName
  line (fill (if t.disabled then files.testDisabledOpen else files.testOpen)
    [("title", quote title env.profile.phrases.quote),
      ("name", env.profile.naming.testName t.name)])
  let before ← statements
  indented do
    if !t.displayName.isEmpty && !files.testDoc.isEmpty then
      line (fill files.testDoc [("title", t.displayName)])
    let _ ← renderBody t.actions
      { unit := env.unit, mode := .test, page := env.profile.pageRef, body := "test:" ++ t.name }
  endBlock before files.testClose

def testBlocks (level : Nat) : List TestCase → Render (List Code)
  | [] => return []
  | t :: rest => do
    let code ← fileSection level (testLines t)
    return code :: (← testBlocks level rest)

/-- The methods with some roles, unit by unit. -/
def lifecycle (units : List SourceUnit) (roles : List MethodRole) : List (SourceUnit × Method) :=
  units.flatMap fun u => (u.methodsWithRole roles).map fun m => (u, m)

def hookBlocks (setups teardowns : List (SourceUnit × Method)) (level : Nat) :
    Render (List Code) := do
  let files := (← profile).files
  if files.hooksOpen.isEmpty then
    let before ← hookBlock files.hookBefore "setup" setups level
    let after ← hookBlock files.hookAfter "teardown" teardowns level
    return before.toList ++ after.toList
  else return (← hookFixture setups teardowns level).toList

/-- Blocks one after the other with empty lines between them. -/
def joinBlocks (gap : Nat) (c : Code) : List Code → Code
  | [] => c
  | [b] => c.append b
  | b :: rest => joinBlocks gap ((c.append b).blank gap) rest

def suiteSection : Render Code := do
  let env ← read
  let files := env.profile.files
  let name := env.unit.simpleName
  let chain := env.unit :: (← superclasses)
  let setups := lifecycle chain.reverse [.setupAll, .setup]
  let teardowns := lifecycle chain [.teardown, .teardownAll]
  if setups.any (·.2.role == .setupAll) || teardowns.any (·.2.role == .teardownAll) then
    note "class-hooks" "class-level setup and teardown run around every test in the target"
  let nested := !files.suiteOpen.isEmpty
  let level := if nested then 1 else 0
  let hooks ← hookBlocks setups teardowns level
  let tests ← testBlocks level env.unit.tests
  fileSection 0 do
    if nested then
      line (fill files.suiteOpen [("title", quote name env.profile.phrases.quote), ("name", name)])
    modifyCode fun c =>
      joinBlocks (if nested then 1 else files.topLevelGap.toNat) c (hooks ++ tests)
    if !files.suiteClose.isEmpty then line files.suiteClose

def testSections : Render (List Code) := do
  let env ← read
  let constants ← constantSections
  let helpers ← functionSections (env.unit.methodsWithRole [.helper])
  (env.unit.methodsWithRole [.constructor]).forM fun c => do
    if !c.actions.isEmpty then
      note "test-constructor" "test class constructor statements were not converted"
        (some c.provenance.position)
  if env.unit.tests.isEmpty then return constants ++ helpers
  else return constants ++ helpers ++ [← suiteSection]

/-! ### Page objects -/

def memberDeclarations (base : Option SourceUnit) : Render Unit := do
  let env ← read
  let template := env.profile.files.fieldDecl
  let declare (name typeName : String) : Render Unit := do
    line (fill template [("name", name), ("type", ← typeText typeName)])
  if !template.isEmpty then
    if base.isNone then declare "page" "WebDriver"
    env.unit.locatorFields.forM fun f => do declare (← ident f.name) "WebElement"
    env.unit.context.pageObjects.forM fun (name, typeName) => do declare (← ident name) typeName
    if (← lineCount) != 0 then modifyCode (·.blank 1)

def memberValues : Render Unit := do
  let env ← read
  let p := env.profile
  let page := p.pageRef
  let assign (name text : String) : Render Unit := do
    line (fill p.files.memberInit
      [("self", p.phrases.selfRef), ("name", ← ident name), ("value", text)])
  let f : Frame :=
    { unit := env.unit, mode := .page, page, body := env.unit.simpleName ++ ".<init>" }
  env.unit.locatorFields.forM fun field => do
    let text ← inFrame f do
      let text ← locatorText field.locator page field.provenance
      trace .locator field.provenance text (some field.locator) page
      return text
    assign field.name text
  env.unit.context.pageObjects.forM fun (name, typeName) => do
    match ← pageObjectFor typeName env.unit with
    | none => return
    | some target =>
      needClass target
      assign name (fill p.phrases.construct [("type", target.simpleName), ("args", page)])

def constructorLines (base : Option SourceUnit) (memberPage : String) : Render Unit := do
  let env ← read
  let files := env.profile.files
  let selfRef := env.profile.phrases.selfRef
  let page := env.profile.pageRef
  let constructors := env.unit.methodsWithRole [.constructor]
  if constructors.length > 1 then
    note "constructors" (env.unit.simpleName ++ " has " ++ toString constructors.length
      ++ " constructors; only the first was converted")
  let extra ← match constructors.head? with
    | some c => paramTexts (c.params.filter (!isDriverParam ·))
    | none => pure []
  line (fill files.constructorOpen [("params", join ", "
    ((if files.selfParam.isEmpty then [] else [files.selfParam]) ++ [files.pageParam] ++ extra))])
  indented do
    if base.isSome then line (fill files.superInit [("page", page)])
    else line (fill files.memberInit [("self", selfRef), ("name", "page"), ("value", page)])
    memberValues
    match constructors.head? with
    | some c =>
      if !c.actions.isEmpty then
        let _ ← renderBody c.actions
          { unit := env.unit, mode := .page, page := memberPage
            body := env.unit.simpleName ++ ".<init>", params := paramNames c }
    | none => return
  if !files.constructorClose.isEmpty then line files.constructorClose

/-- The lines of a method of a page object. -/
def pageMethodLines (memberPage : String) (m : Method) : Render Unit := do
  let env ← read
  let files := env.profile.files
  modifyCode (·.blank 1)
  let params ← paramList m false (!m.static)
  let returns ← returnText m
  line (fill (if m.static then files.staticMethodOpen else files.methodOpen)
    [("name", ← ident m.name), ("params", params), ("returns", returns)])
  let before ← statements
  indented do
    let _ ← renderBody m.actions
      { unit := env.unit, mode := .page, page := memberPage
        body := env.unit.simpleName ++ "." ++ m.name ++ "/" ++ toString m.arity
        params := paramNames m }
  endBlock before files.methodClose

def classSection : Render Code := do
  let env ← read
  let files := env.profile.files
  let memberPage := fill env.profile.memberPageRef [("self", env.profile.phrases.selfRef)]
  let base := (← superclasses).head?
  base.forM needClass
  let parent := match base with
    | some b => fill files.extendsClause [("base", b.simpleName)]
    | none => ""
  let members ← fileSection 1 do
    memberDeclarations base
    constructorLines base memberPage
    (env.unit.methodsWithRole [.pageMethod]).forM (pageMethodLines memberPage)
  fileSection 0 do
    line (fill files.classOpen [("name", env.unit.simpleName), ("extends", parent)])
    modifyCode (·.append members)
    if !files.classClose.isEmpty then line files.classClose

def pageSections : Render (List Code) := do
  let code ← classSection
  return (← constantSections) ++ [code]

def functionModule : Render (List Code) := do
  let env ← read
  let constants ← constantSections
  return constants ++ (← functionSections (env.unit.methods.filter (·.role != .constructor)))

/-! ### The head of a file -/

/-- Whether a name occurs in a text as a whole word: not behind a word, a dot or a dollar sign, nor
before a word or a dollar sign. -/
def mentions (name : List Char) (before : Option Char) : List Char → Bool
  | [] => name.isEmpty && !blocks before
  | c :: rest =>
    (name.isPrefixOf (c :: rest) && !blocks before && !continues ((c :: rest).drop name.length))
      || mentions name (some c) rest
where
  /-- Whether no name starts behind a character. -/
  blocks : Option Char → Bool
    | some c => isWordChar c || c == '.' || c == '$'
    | none => false
  /-- Whether a name goes on. -/
  continues : List Char → Bool
    | c :: _ => isWordChar c || c == '$'
    | [] => false

def headerLines (headers : List HeaderImport) (text : String) : List String :=
  headers.flatMap fun h =>
    if h.names.isEmpty then lines h.template
    else
      let used := h.names.filter fun name => mentions name.toList none text.toList
      if used.isEmpty then [] else lines (fill h.template [("names", join ", " used)])

/-- The way from one file to the module of another, as found in a working directory. -/
def importWay (cwd fromPath target : String) : String :=
  let directory := Path.directory fromPath
  let way := Path.relative cwd (Path.stem target) (if directory.isEmpty then "." else directory)
  if startsWith "." way then way else "./" ++ way

/-- How the file of a unit is imported from a path: the way to it, and its name as a module. The way
is the same in all working directories. -/
def importTarget (p : Profile) (fromPath : String) (u : SourceUnit) :
    Except Halt (List (String × String)) := do
  let target ← outputPath p u
  return [("path", importWay "/work" fromPath target), ("module", dotted target)]

/-- The imports of classes, of functions and of modules, each in the order of the units. -/
def importLines (env : Env) (path : String) (s : Session) : Except Halt (List String) := do
  let files := env.profile.files
  let sorted {α : Type} (t : Table String α) : Table String α :=
    sortBy (fun a b => textLe a.1 b.1) t
  let classes ← (sorted s.classImports).mapM fun (_, u) => do
    return fill files.importClass (("name", u.simpleName) :: (← importTarget env.profile path u))
  let functions ← (sorted s.functionImports).mapM fun (_, u, names) => do
    return fill files.importFunctions
      (("names", join ", " (sortTexts names)) :: (← importTarget env.profile path u))
  let modules ← (sorted s.moduleImports).mapM fun (_, u) => do
    return fill files.importModule
      (("alias", moduleAlias env.profile u) :: (← importTarget env.profile path u))
  return classes ++ functions ++ modules

/-! ### The file -/

def unitSections : Render (String × List Code) := do
  match (← read).unit.kind with
  | .testClass | .suite => return ("test", ← testSections)
  | .pageObject => return ("page", ← pageSections)
  | .utilityModule | .support => return ("module", ← functionModule)

def fileText (path : String) : Render String := do
  let env ← read
  let files := env.profile.files
  let (heading, sections) ← unitSections
  let body := (sections.filter (!·.lines.isEmpty)).map Code.text
  let origin := fill env.profile.phrases.comment
    [("text", "Generated by testloom from " ++ env.unit.unitName)]
  let headers := headerLines ((Table.get? heading files.headerImports).getD []) (join "\n" body)
  let imports ← liftHalt (importLines env path (← get).session)
  let gap := times (files.topLevelGap + 1).toNat "\n"
  return join gap (join "\n" (origin :: headers ++ imports) :: body) ++ "\n"

/-- Renders a unit to a path. Also a refused unit leaves a session, with its remarks. -/
def renderTo (env : Env) (path : String) : Except Halt (Except Refusal String × Session) :=
  let start : State := { frame := { unit := env.unit, mode := .test, page := "", body := "" } }
  match (fileText path).run env start with
  | (.ok text, s) => .ok (.ok text, s.session)
  | (.error (.refused r), s) => .ok (.error r, s.session)
  | (.error (.untranslatable text), _) => .error (.untranslatable text)
  | (.error (.halted h), _) => .error h

/-- A unit becomes a file, or is refused by a gate or on the way. -/
def renderUnit (env : Env) : Except Halt (Except Refusal OutputUnit × Session) := do
  let path ← outputPath env.profile env.unit
  match ← renderTo env path with
  | (.error r, s) => return (.error r, s)
  | (.ok text, s) =>
    match runGates env text s with
    | .error r => return (.error r, s)
    | .ok _ =>
      return (.ok { qualifiedName := dotted path, path, kind := env.unit.kind
                    source := env.unit.unitName, text }, s)

end TestMigration.Rendering
