import TestMigration.Syntax.Balance
import TestMigration.Syntax.Reading
import TestMigration.Text.Path
/-!
# Reading a source unit

The way from a text to its syntax tree. Only a text that is not balanced is rejected; what a parser
cannot make fit is told with the tree. Every literal that ended up in the tree has to have a value:
one without stops the run.
-/

namespace TestMigration.Syntax

open Text

/-!
### Reading declarations

The members of a class and the declarations of a source unit. Only classes are read; of the other
types a class body contains, the names of classes, interfaces and enumerations are kept.
-/

/-- A text, or another one in place of the empty one. -/
def orElse (text other : String) : String := if text == "" then other else text

def exprOf (s : Source) (n : Node) : Expr := readExpr s (2 * n.depth) n

/-- The statements of a body. A single statement is passed twice, first as a body and then as a
statement. -/
def bodyOf (s : Source) (n : Node) : List Stmt := readBody s (2 * n.depth) n

/-! ### Modifiers and annotations -/

/-- An annotation. It is known by its last name; an argument without a key has the key `value`. -/
def annotationOf (s : Source) (n : Node) : Annotation :=
  let argument (a : Node) : String × Expr :=
    if a.isKind .annotationPair then
      (orElse (s.partText a .key) "value", ((a.part? .value).map (exprOf s)).getD default)
    else ("value", exprOf s a)
  let arguments := ((n.part? .arguments).map Node.items).getD []
  { name := afterLast '.' (s.partText n .name)
    arguments := Table.ofPairs (arguments.map argument)
    text := s.text n }

structure Modifiers where
  words : List String := []
  annotations : List Annotation := []

def modifiersOf (s : Source) (n : Node) : Modifiers :=
  let parts := ((n.partOf? .modifiers).map fun m => m.parts.map Prod.snd).getD []
  { words := (parts.filter fun p => !p.label.isNamed).map Node.word
    annotations := (parts.filter fun p =>
      p.isKind .annotationBare || p.isKind .annotationApplied).map (annotationOf s) }

/-! ### Members -/

/-- A parameter of a method; the receiver is none. Of one of variable arity, whatever comes first
after the modifiers is taken for the type, be it a comment. -/
def paramOf? (s : Source) (n : Node) : Option Param :=
  if n.isKind .parameter then some { typeName := s.partText n .type, name := s.partText n .name }
  else if n.isKind .spreadParameter then
    let parts := n.named.filter fun p => !p.isKind .modifiers
    let name := match parts.getLast? with
      | some d => if d.isKind .declarator then s.partText d .name else s.text d
      | none => ""
    some { typeName := (parts.head?.map s.text).getD "", name }
  else none

def methodOf (s : Source) (n : Node) : MethodDecl :=
  let isConstructor := n.isKind .constructorDeclaration
  let m := modifiersOf s n
  { name := s.partText n .name
    params := ((n.part? .parameters).map Node.named).getD [] |>.filterMap (paramOf? s)
    returnType := if isConstructor then "" else orElse (s.partText n .type) "void"
    modifiers := m.words, annotations := m.annotations
    body := ((n.part? .body).map (bodyOf s)).getD []
    text := s.text n, span := s.span n, isConstructor }

def fieldsOf (s : Source) (n : Node) : List FieldDecl :=
  let m := modifiersOf s n
  (n.partsIn .declarator).map fun v => {
    typeName := s.partText n .type, name := s.partText v .name, modifiers := m.words
    annotations := m.annotations, init := (v.part? .value).map (exprOf s), text := s.text n
    span := s.span n }

inductive Member where
  | fields (declared : List FieldDecl)
  | method (declared : MethodDecl)
  | type (name : String)
  | other

def memberOf (s : Source) (n : Node) : Member :=
  match n.label with
  | .kind .fieldDeclaration => .fields (fieldsOf s n)
  | .kind .methodDeclaration | .kind .constructorDeclaration => .method (methodOf s n)
  | .kind .classDeclaration | .kind .interfaceDeclaration | .kind .enumDeclaration =>
    .type (s.partText n .name)
  | _ => .other

/-! ### Classes -/

structure ReadClass where
  decl : ClassDecl
  members : List Member

/-- The types of an `implements` clause, among which comments count. -/
def interfacesOf (s : Source) (n : Node) : List String :=
  n.parts.flatMap fun (_, p) =>
    if p.isKind .typeList then p.named.map s.text else []

def classOf (s : Source) (n : Node) : ReadClass :=
  let m := modifiersOf s n
  let members := ((n.part? .body).map Node.named).getD [] |>.map (memberOf s)
  let decl : ClassDecl := {
    name := s.partText n .name, modifiers := m.words, annotations := m.annotations
    superclass := (n.partOf? .superclass).bind fun c => c.named.head?.map s.text
    interfaces := ((n.partOf? .superInterfaces).map (interfacesOf s)).getD []
    fields := members.flatMap fun
      | .fields declared => declared
      | _ => []
    methods := members.filterMap fun
      | .method declared => some declared
      | _ => none
    nested := members.filterMap fun
      | .type name => if name == "" then none else some name
      | _ => none
    text := s.text n, span := s.span n }
  { decl, members }

/-! ### Source units -/

/-- The path of an import: its text without the word, the semicolon and superfluous blanks. -/
def importPath (text : String) : String :=
  join " " (words (trimRight (· == ';') (.ofList ((trim text).toList.drop 6))))

def packageName (text : String) : String :=
  trim (trimRight (· == ';') (replaceFirst "package " "" (trim text)))

structure Outline where
  package : String := ""
  imports : List String := []
  classes : List ReadClass := []

def outlineOf (s : Source) (unit : Node) : Outline :=
  let parts := unit.parts.map Prod.snd
  let ofKind (k : Kind) := parts.filter (Node.isKind k)
  { package := ((ofKind .packageDeclaration).head?.map fun n => packageName (s.text n)).getD ""
    imports := (ofKind .importDeclaration).map fun n => importPath (s.text n)
    classes := ((ofKind .classDeclaration).map (classOf s)).filter (·.decl.name != "") }

/-! ### Literals without a value -/

/-- Why a literal has no value. A number in decimal or octal digits is malformed, a fraction is
beyond the largest double. -/
def literalHalt? (kind : LiteralKind) (value : Scalar) (text : String) : Option Halt :=
  match kind, value with
  | .null, _ => none
  | .number, .absent =>
    match Number.integer? text.toList with
    | some _ => none
    | none =>
      match Number.hexFraction (fractionDigits text) with
      | .tooLarge => some .numberTooLarge
      | _ => some .malformedLiteral
  | _, .absent => some .malformedLiteral
  | _, _ => none

mutual

def Expr.halt? : Expr → Option Halt
  | .literal kind value text _ => literalHalt? kind value text
  | .name .. | .this .. | .verbatim .. => none
  | .fieldAccess target _ _ _ => target.halt?
  | .call none _ args _ _ => haltIn args
  | .call (some target) _ args _ _ => target.halt? <|> haltIn args
  | .new _ args _ _ => haltIn args
  | .cast _ operand _ _ => operand.halt?
  | .lambda _ body _ _ => body.halt?
  | .binary _ left right _ _ => left.halt? <|> right.halt?
  | .unary _ operand _ _ => operand.halt?

def haltIn : List Expr → Option Halt
  | [] => none
  | e :: rest => e.halt? <|> haltIn rest

def LambdaBody.halt? : LambdaBody → Option Halt
  | .expr value => value.halt?
  | .block stmts => haltInBody stmts

/-- The first literal of a statement that has no value. -/
def Stmt.halt? : Stmt → Option Halt
  | .localVar _ _ none _ _ | .ret none _ _ | .verbatim .. => none
  | .localVar _ _ (some init) _ _ => init.halt?
  | .assign target value _ _ => target.halt? <|> value.halt?
  | .expr value _ _ => value.halt?
  | .ite condition thenBody elseBody _ _ =>
    condition.halt? <|> haltInBody thenBody <|> haltInBody elseBody
  | .try body catches none _ _ => haltInCatches catches <|> haltInBody body
  | .try body catches (some last) _ _ =>
    haltInCatches catches <|> haltInBody last <|> haltInBody body
  | .ret (some value) _ _ => value.halt?

def haltInBody : List Stmt → Option Halt
  | [] => none
  | s :: rest => s.halt? <|> haltInBody rest

def haltInCatches : List Catch → Option Halt
  | [] => none
  | .mk _ _ body _ :: rest => haltInBody body <|> haltInCatches rest

end

def haltInAnnotations (annotations : List Annotation) : Option Halt :=
  annotations.findSome? fun a => haltIn (a.arguments.map Prod.snd)

def Member.halt? : Member → Option Halt
  | .fields declared =>
    declared.findSome? fun f => haltInAnnotations f.annotations <|> f.init.bind Expr.halt?
  | .method m => haltInAnnotations m.annotations <|> haltInBody m.body
  | .type _ | .other => none

def ReadClass.halt? (c : ReadClass) : Option Halt :=
  haltInAnnotations c.decl.annotations <|> c.members.findSome? Member.halt?

/-! ### From a text to its tree -/

/-- The tree of what a parser made of a text. -/
def treeOf (parsed : Parsed) (text unitName : String) : Except Problem Tree :=
  let s : Source := { characters := text.toList.toArray, tokens := parsed.tokens }
  let o := outlineOf s parsed.root
  match o.classes.findSome? ReadClass.halt? with
  | some h => .error (.halted h)
  | none => .ok {
      unitName, language := "java", package := o.package, imports := o.imports
      classes := o.classes.map ReadClass.decl, recovered := (parsed.root.unfit s).map s.span }

def readText (parser : Parser) (text unitName : String) : Except Problem Tree :=
  match checkBalance text unitName with
  | .error e => .error (.rejected e)
  | .ok () =>
    match encodingFault? text with
    | some reason => .error (.halted (.file (.unencodable reason)))
    | none => treeOf (parser.parse text) text unitName

/-! ### Languages -/

/-- The language of a file by the extension of its name. -/
def languageOf? (path : String) : Option String :=
  if lower (Path.splitExtension path).2 == ".java" then some "java" else none

def isSupported (language : String) : Bool := language == "java"

def isSourceFile (path : String) : Bool := (languageOf? path).isSome

def skippedDirectories : List String :=
  ["__pycache__", ".git", ".svn", ".idea", "node_modules", "target", "build", "out", "bin",
    ".gradle", ".mvn"]

/-- Whether a directory is passed over in the search for sources. -/
def skipsDirectory (name : String) : Bool := skippedDirectories.contains name || startsWith "." name

/-- Reads a source text; a language that is not given follows from the name of the unit, or is the
one supported. -/
def readSource (parser : Parser) (text unitName : String) (language : Option String) :
    Except Problem Tree :=
  let language := language.getD ((languageOf? unitName).getD "java")
  if isSupported language then readText parser text unitName
  else .error (.halted (.unsupportedLanguage language))

/-- The name of a unit: its path below the root of the project, with slashes only. -/
def unitNameOf (path root : String) : String :=
  let relative := if root != "" && startsWith root path then
      trimLeft (fun c => c == '/' || c == '\\') (.ofList (path.toList.drop root.length))
    else path
  replace "\\" "/" relative

end TestMigration.Syntax
