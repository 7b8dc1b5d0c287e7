import TestMigration.Document.Schema
import TestMigration.Model.Basic
import TestMigration.Profile.Document
import TestMigration.Text.Shown
/-!
# Reading profiles

A profile document is checked in full before it is used: every field has its type, the tables name
nothing that tests cannot do, and the rules that join several fields hold. Everything that is wrong
is reported at once.

The keywords of the target language are the exception. There is no default for them, and a document
that leaves them out is not reported on but refused outright.
-/

namespace TestMigration

open Document Text

def locatorStrategies : List String :=
  ["id", "name", "className", "cssSelector", "xpath", "tagName", "linkText", "partialLinkText"]

/-- What is done to elements; `fill` is typing into a cleared field. -/
def interactionOps : List String :=
  ["clear", "sendKeys", "click", "hover", "selectByVisibleText", "doubleClick", "submit", "press",
   "selectByValue", "selectByIndex", "fill"]

def assertionKinds : List String :=
  ["equals", "notEquals", "true", "false", "null", "notNull", "contains"]

/-- The commands to the browser, with going to an address and pausing. -/
def commandNames : List String :=
  ["maximize", "quit", "close", "deleteAllCookies", "back", "forward", "refresh", "implicitWait",
   "navigate", "pause"]

def writtenKinds : List UnitKind := [.testClass, .pageObject, .utilityModule, .suite]

namespace Profile

def onlyKeys {α : Type} (what : String) (known : List String) (t : Table String α) :
    Except FieldFault (Table String α) :=
  match t.keys.filter fun k => !known.contains k with
  | [] => .ok t
  | unknown => .error (.rule ("unknown " ++ what ++ ": " ++ shownList (sortTexts unknown)))

def pathForEachKind (t : Table String String) : Except FieldFault (Table String String) :=
  match (writtenKinds.map UnitKind.word).filter fun k => !Table.has k t with
  | [] => .ok t
  | absent => .error (.rule ("paths missing for kinds: " ++ shownList (sortTexts absent)))

def knownStrategy (subject word : String) : Except FieldFault DelegateStrategy :=
  match DelegateStrategy.ofWord? word with
  | some s => .ok s
  | none => .error (.rule (subject ++ " must be one of ('call', 'inline')"))

def knownStyle (word : String) : Except FieldFault NameStyle :=
  match NameStyle.ofWord? word with
  | some s => .ok s
  | none => .error (.rule ("unknown naming style '" ++ word ++ "'"))

def knownPlace : Option String → Except FieldFault (Option SelectorPlace)
  | none => .ok none
  | some word =>
    match SelectorPlace.ofWord? word with
    | some place => .ok (some place)
    | none => .error (.rule ("unknown selector escape '" ++ word ++ "'"))

/-- A strategy has either a selector or an expression. -/
def oneShape : Option String × Option String × Option SelectorPlace →
    Except FieldFault LocatorTemplate
  | (some s, none, escape) => .ok { shape := .selector s, escape }
  | (none, some e, escape) => .ok { shape := .expression e, escape }
  | _ => .error (.rule "locator template needs exactly one of 'selector' or 'expression'")

/-- The rule that hooks are written either together or one by one. -/
def oneHookStyle (f : FileShapes) : Except FieldFault FileShapes :=
  if f.hooksOpen.isEmpty && (f.hookBefore.isEmpty || f.hookAfter.isEmpty) then
    .error (.rule "files need either 'hooks_open' or both 'hook_before' and 'hook_after'")
  else .ok f

def readTemplate : FieldReader LocatorTemplate :=
  checked (readRecord "LocatorTemplate" (none, none, none) fun r => do
    let selector ← r.optional "selector" readOptional none
    let expression ← r.optional "expression" readOptional none
    let escape ← r.optional "escape" (checked readOptional knownPlace none) none
    return (selector, expression, escape)) oneShape { shape := .selector "" }

def readLocators : FieldReader LocatorShapes :=
  readRecord "LocatorSpec" { locate := "", nth := "", strategies := [] } fun r => do
    let locate ← r.text "locate"
    let nth ← r.text "nth"
    let strategies ← r.required "strategies"
      (checked (readTable readTemplate) (onlyKeys "locator strategies" locatorStrategies) []) []
    return { locate, nth, strategies }

def readScript : FieldReader ScriptBridge :=
  readRecord "ScriptBridge" { semantics := "", statement := "", expression := "", elementArg := "" }
    fun r => do
      let semantics ← r.text "semantics"
      let function ← r.textOr "function" "($params) => \x7b $code \x7d"
      let params ← r.textOr "params" "args"
      let statement ← r.text "statement"
      let expression ← r.text "expression"
      let elementArg ← r.text "element_arg"
      return { semantics, function, params, statement, expression, elementArg }

def noPhrases : Phrases :=
  { contains := "", declare := "", declareMutable := "", assign := "", ifOpen := "", elseOpen := ""
    tryOpen := "", catchOpen := "", returnValue := "", returnVoid := "", comment := ""
    construct := "", keywords := [] }

/-- The phrases. Three of them have a second name. -/
def readPhrases : FieldReader Phrases :=
  readRecord "SyntaxSpec" noPhrases fun given => do
    let r := ((given.renamed "not" "not_").renamed "await" "await_").renamed "construct"
      "construct_"
    let indent ← r.textOr "indent" "  "
    let quote ← r.textOr "quote" "'"
    let trueWord ← r.textOr "true" "true"
    let falseWord ← r.textOr "false" "false"
    let nullWord ← r.textOr "null" "null"
    let selfRef ← r.textOr "self_ref" "this"
    let operators ← r.optional "operators" readTexts []
    let not ← r.textOr "not" "!$operand"
    let contains ← r.text "contains"
    let declare ← r.text "declare"
    let declareMutable ← r.text "declare_mutable"
    let assign ← r.text "assign"
    let expressionStatement ← r.textOr "expression_statement" "$expression;"
    let await ← r.textOr "await" "await $expression"
    let ifOpen ← r.text "if_open"
    let elseOpen ← r.text "else_open"
    let tryOpen ← r.text "try_open"
    let catchOpen ← r.text "catch_open"
    let blockClose ← r.textOr "block_close" "\x7d"
    let emptyBlock ← r.textOr "empty_block" ""
    let inlineOpen ← r.textOr "inline_open" "\x7b"
    let inlineClose ← r.textOr "inline_close" "\x7d"
    let returnValue ← r.text "return_value"
    let returnVoid ← r.text "return_void"
    let comment ← r.text "comment"
    let construct ← r.text "construct"
    let list ← r.textOr "list" "[$items]"
    let messagePart ← r.textOr "message_part" ", $message"
    let groupAssertOperands ← r.optional "group_assert_operands" readFlag false
    let keywords ← r.optional "keywords" (readList readString) []
    return {
      indent, quote, trueWord, falseWord, nullWord, selfRef, operators, not, contains, declare,
      declareMutable, assign, expressionStatement, await, ifOpen, elseOpen, tryOpen, catchOpen,
      blockClose, emptyBlock, inlineOpen, inlineClose, returnValue, returnVoid, comment,
      construct, list, messagePart, groupAssertOperands, keywords }

def readStyles : FieldReader NameStyles :=
  readRecord "NamingSpec" {} fun r => do
    let identifiers ← r.optional "identifiers" (checked readString knownStyle .camel) .camel
    let modules ← r.optional "modules" (checked readString knownStyle .pascal) .pascal
    let testStart ← r.textOr "test_prefix" ""
    return { identifiers, modules, testStart }

def readHeaderImport : FieldReader HeaderImport :=
  readRecord "HeaderImport" { template := "" } fun r => do
    let template ← r.text "template"
    let names ← r.optional "names" (readList readString) []
    return { template, names }

def noFiles : FileShapes :=
  { headerImports := [], constant := "", testOpen := "", testDisabledOpen := "", functionOpen := ""
    classOpen := "", constructorOpen := "", memberInit := "", methodOpen := ""
    staticMethodOpen := "", importClass := "", importModule := "", importFunctions := "" }

def readFiles : FieldReader FileShapes :=
  checked (readRecord "FileTemplates" noFiles fun r => do
    let headerImports ← r.required "header_imports" (readTable (readList readHeaderImport)) []
    let constant ← r.text "constant"
    let topLevelGap ← r.optional "top_level_gap" readInteger 1
    let suiteOpen ← r.textOr "suite_open" ""
    let suiteClose ← r.textOr "suite_close" ""
    let hookBefore ← r.textOr "hook_before" ""
    let hookAfter ← r.textOr "hook_after" ""
    let hooksOpen ← r.textOr "hooks_open" ""
    let hooksYield ← r.textOr "hooks_yield" "yield"
    let hookClose ← r.textOr "hook_close" ""
    let testOpen ← r.text "test_open"
    let testDisabledOpen ← r.text "test_disabled_open"
    let testDoc ← r.textOr "test_doc" ""
    let testClose ← r.textOr "test_close" ""
    let functionOpen ← r.text "function_open"
    let functionClose ← r.textOr "function_close" ""
    let classOpen ← r.text "class_open"
    let classClose ← r.textOr "class_close" ""
    let extendsClause ← r.textOr "extends_clause" ""
    let superInit ← r.textOr "super_init" ""
    let selfParam ← r.textOr "self_param" ""
    let fieldDecl ← r.textOr "field_decl" ""
    let constructorOpen ← r.text "constructor_open"
    let constructorClose ← r.textOr "constructor_close" ""
    let memberInit ← r.text "member_init"
    let methodOpen ← r.text "method_open"
    let staticMethodOpen ← r.text "static_method_open"
    let methodClose ← r.textOr "method_close" ""
    let param ← r.textOr "param" "$name: $type"
    let untypedParam ← r.textOr "untyped_param" "$name"
    let returnType ← r.textOr "return_annotation" ""
    let voidType ← r.textOr "void_type" "void"
    let pageParam ← r.textOr "page_param" "page: Page"
    let importClass ← r.text "import_class"
    let importModule ← r.text "import_module"
    let importFunctions ← r.text "import_functions"
    return {
      headerImports, constant, topLevelGap, suiteOpen, suiteClose, hookBefore, hookAfter,
      hooksOpen, hooksYield, hookClose, testOpen, testDisabledOpen, testDoc, testClose,
      functionOpen, functionClose, classOpen, classClose, extendsClause, superInit, selfParam,
      fieldDecl, constructorOpen, constructorClose, memberInit, methodOpen, staticMethodOpen,
      methodClose, param, untypedParam, returnType, voidType, pageParam, importClass,
      importModule, importFunctions })
    oneHookStyle noFiles

def nothing : Profile :=
  { name := "", displayName := "", language := "", fileExtension := "", phrases := noPhrases
    locators := { locate := "", nth := "", strategies := [] }, interactions := [], queries := []
    pageQueries := [], waits := [], asserts := [], commands := []
    script := { semantics := "", statement := "", expression := "", elementArg := "" }
    files := noFiles, paths := [] }

def readProfile : FieldReader Profile :=
  readRecord "TargetProfile" nothing fun r => do
    let name ← r.text "name"
    let displayName ← r.text "display_name"
    let version ← r.textOr "version" "1.0.0"
    let language ← r.text "language"
    let fileExtension ← r.text "file_extension"
    let delegateStrategy ← r.optional "delegate_strategy"
      (checked readString (knownStrategy "delegate_strategy") .call) .call
    let phrases ← r.required "syntax" readPhrases noPhrases
    let styles ← r.optional "naming" readStyles {}
    let types ← r.optional "types" readTexts []
    let locators ← r.required "locators" readLocators nothing.locators
    let interactions ← r.required "interactions"
      (checked readTexts (onlyKeys "interactions" interactionOps) []) []
    let queries ← r.required "queries" readTexts []
    let pageQueries ← r.required "page_queries" readTexts []
    let waits ← r.required "waits" readTexts []
    let asserts ← r.required "asserts"
      (checked readTexts (onlyKeys "assertion kinds" assertionKinds) []) []
    let commands ← r.required "commands"
      (checked readTexts (onlyKeys "commands" commandNames) []) []
    let script ← r.required "script" readScript nothing.script
    let pageRef ← r.textOr "page_ref" "page"
    let memberPageRef ← r.textOr "member_page_ref" "$self.page"
    let files ← r.required "files" readFiles noFiles
    let paths ← r.required "paths" (checked readTexts pathForEachKind []) []
    let supportFiles ← r.optional "support_files" readTexts []
    let packageMarker ← r.optional "package_marker" readOptional none
    return {
      name, displayName, version, language, fileExtension, delegateStrategy, phrases, styles, types,
      locators, interactions, queries, pageQueries, waits, asserts, commands, script, pageRef,
      memberPageRef, files, paths, supportFiles, packageMarker }

def lacksKeywords (d : Document) : Bool :=
  match d.field? "syntax" with
  | some (.record fields) => !Table.has "keywords" fields
  | _ => false

end Profile

/-- Why there is no profile. -/
inductive ProfileProblem where
  | unknown (name : String)
  | noFile (path : String)
  | notStructured (path : String)
  | notRecord (path : String)
  | invalid (path : String) (errors : List FieldError)
  | badSettings (errors : List FieldError)
  deriving DecidableEq, Repr

/-- The profile in a document found at a path, unless it is unusable. -/
def Profile.ofDocument (path : String) (d : Document) :
    Except Halt (Except ProfileProblem Profile) :=
  match d with
  | .record _ =>
    if lacksKeywords d then .error .noKeywords
    else .ok (match readProfile.run d with
      | .ok p => .ok p
      | .error errors => .error (.invalid path errors))
  | _ => .ok (.error (.notRecord path))

end TestMigration
