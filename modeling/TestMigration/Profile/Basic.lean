import TestMigration.Table
import TestMigration.Text.Naming
import TestMigration.Text.Selector
/-!
# Target profiles

A profile says how everything a test can do is written in one target. Nearly all of it is templates,
in which `$name` stands for a part that is filled in. An empty template means that nothing is
written.
-/

namespace TestMigration

open Text

inductive DelegateStrategy where
  | call
  /-- By the body of the method that is called. -/
  | inline
  deriving DecidableEq, Repr

def DelegateStrategy.word : DelegateStrategy → String
  | .call => "call"
  | .inline => "inline"

def DelegateStrategy.ofWord? : String → Option DelegateStrategy
  | "call" => some .call
  | "inline" => some .inline
  | _ => none

namespace Profile

inductive LocatorShape where
  /-- The text of a selector, which the profile's lookup wraps. -/
  | selector (template : String)
  | expression (template : String)
  deriving DecidableEq, Repr

structure LocatorTemplate where
  shape : LocatorShape
  escape : Option SelectorPlace := none
  deriving DecidableEq, Repr

structure LocatorShapes where
  locate : String
  nth : String
  strategies : Table String LocatorTemplate
  deriving Repr

structure ScriptBridge where
  semantics : String
  function : String := "($params) => \x7b $code \x7d"
  params : String := "args"
  statement : String
  expression : String
  elementArg : String
  deriving DecidableEq, Repr

structure Phrases where
  indent : String := "  "
  quote : String := "'"
  trueWord : String := "true"
  falseWord : String := "false"
  nullWord : String := "null"
  selfRef : String := "this"
  operators : Table String String := []
  not : String := "!$operand"
  contains : String
  declare : String
  declareMutable : String
  assign : String
  expressionStatement : String := "$expression;"
  await : String := "await $expression"
  ifOpen : String
  elseOpen : String
  tryOpen : String
  catchOpen : String
  blockClose : String := "\x7d"
  emptyBlock : String := ""
  inlineOpen : String := "\x7b"
  inlineClose : String := "\x7d"
  returnValue : String
  returnVoid : String
  comment : String
  construct : String
  list : String := "[$items]"
  messagePart : String := ", $message"
  groupAssertOperands : Bool := false
  keywords : List String
  deriving Repr

structure NameStyles where
  identifiers : NameStyle := .camel
  modules : NameStyle := .pascal
  testStart : String := ""
  deriving DecidableEq, Repr

/-- An import that is written if one of its names is used, or if it has none. -/
structure HeaderImport where
  template : String
  names : List String := []
  deriving DecidableEq, Repr

structure FileShapes where
  headerImports : Table String (List HeaderImport)
  constant : String
  topLevelGap : Int := 1
  suiteOpen : String := ""
  suiteClose : String := ""
  hookBefore : String := ""
  hookAfter : String := ""
  hooksOpen : String := ""
  hooksYield : String := "yield"
  hookClose : String := ""
  testOpen : String
  testDisabledOpen : String
  testDoc : String := ""
  testClose : String := ""
  functionOpen : String
  functionClose : String := ""
  classOpen : String
  classClose : String := ""
  extendsClause : String := ""
  superInit : String := ""
  selfParam : String := ""
  fieldDecl : String := ""
  constructorOpen : String
  constructorClose : String := ""
  memberInit : String
  methodOpen : String
  staticMethodOpen : String
  methodClose : String := ""
  param : String := "$name: $type"
  untypedParam : String := "$name"
  returnType : String := ""
  voidType : String := "void"
  pageParam : String := "page: Page"
  importClass : String
  importModule : String
  importFunctions : String
  deriving Repr

end Profile

open Profile

structure Profile where
  name : String
  displayName : String
  version : String := "1.0.0"
  language : String
  fileExtension : String
  delegateStrategy : DelegateStrategy := .call
  phrases : Phrases
  styles : NameStyles := {}
  types : Table String String := []
  locators : LocatorShapes
  interactions : Table String String
  queries : Table String String
  pageQueries : Table String String
  waits : Table String String
  asserts : Table String String
  commands : Table String String
  script : ScriptBridge
  pageRef : String := "page"
  memberPageRef : String := "$self.page"
  files : FileShapes
  paths : Table String String
  supportFiles : Table String String := []
  packageMarker : Option String := none
  deriving Repr

def Profile.naming (p : Profile) : Naming :=
  { identifiers := p.styles.identifiers, modules := p.styles.modules
    testStart := p.styles.testStart, keywords := p.phrases.keywords }

end TestMigration
