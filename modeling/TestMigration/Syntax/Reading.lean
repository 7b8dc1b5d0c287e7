import TestMigration.Syntax.Node
/-!
# Reading expressions and statements

The nodes of a source text become expressions and statements. Whatever a browser test is not written
with is kept by its text: an expression without a word, a statement with its kind as the reason why
it is not understood.

Parentheses leave no node, yet the text of an operation starts at the parenthesis around its left
operand, because its text is that of its node.
-/

namespace TestMigration.Syntax

open Text

/-! ### Literals

A text block loses its first line break and the indentation that all its lines share, and only then
are its escapes read. -/

def indentation (line : List Char) : Nat := (line.takeWhile isBlank).length

def commonIndentation (lines : List (List Char)) : Nat :=
  let depths := (lines.filter fun l => !(l.all isBlank)).map indentation
  depths.min?.getD 0

def joinLines : List (List Char) → List Char
  | [] => []
  | [l] => l
  | l :: rest => l ++ '\n' :: joinLines rest

/-- The characters of a text block between its delimiters, without the opening line and the shared
indentation. -/
def textBlockBody (body : List Char) : List Char :=
  let lines := if body.contains '\n' then (splitAtAll ['\n'] body).drop 1 else [body]
  let indent := commonIndentation lines
  joinLines (lines.map (·.drop indent))

/-- A list without its first `n` and its last `n` characters. -/
def between (n : Nat) (cs : List Char) : List Char := (cs.drop n).take (cs.length - 2 * n)

/-- The text a string literal stands for; nothing if one of its escapes cannot be read. -/
def stringValue? (literal : List Char) : Option (List Char) :=
  if ['"', '"', '"'].isPrefixOf literal then
    unescapeFrom .plain (textBlockBody (between 3 literal))
  else unescapeFrom .plain (between 1 literal)

def textScalar (value : Option (List Char)) : Scalar :=
  match value with
  | some cs => .text (.ofList cs)
  | none => .absent

/-- The digits of a fraction: without underscores and the letters at its end. -/
def fractionDigits (text : String) : List Char :=
  trimRightChars (fun c => "fFdD".toList.contains c) (text.toList.filter (· != '_'))

/-- The number that a token is. Without a readable value it keeps the value `absent`, and a fraction
that is none in its digits is kept as text. -/
def numberLiteral (kind : TokenKind) (text : String) (span : Span) : Expr :=
  match kind with
  | .fraction =>
    match Number.unsignedFraction? (fractionDigits text) with
    | some x => .literal .number (.real x) text span
    | none => .verbatim text span
  | .hexFraction =>
    match Number.hexFraction (fractionDigits text) with
    | .value x => .literal .number (.real x) text span
    | .tooLarge => .literal .number .absent text span
    | .malformed => .verbatim text span
  | _ =>
    match Number.integer? text.toList with
    | some n => .literal .number (.int n) text span
    | none => .literal .number .absent text span

def terminalExpr (s : Source) (t : Terminal) (n : Node) : Expr :=
  let text := s.text n
  let span := s.span n
  match t with
  | .name => .name text text span
  | .character =>
    .literal .char (textScalar (unescapeFrom .plain (between 1 text.toList))) text span
  | .number => numberLiteral (((s.tokens[n.first]?).map Token.kind).getD .integer) text span
  | .fixed "this" | .fixed "super" => .this text span
  | .fixed "true" => .literal .boolean (.flag true) text span
  | .fixed "false" => .literal .boolean (.flag false) text span
  | .fixed "null" => .literal .null .absent text span
  | _ => .verbatim text span

/-! ### Words for statements -/

def statementWord : Label → String
  | .kind k => match k with
    | .labeledStatement => "labeled_statement"
    | .whileStatement => "while_statement"
    | .forStatement => "for_statement"
    | .forEachStatement => "enhanced_for_statement"
    | .assertStatement => "assert_statement"
    | .doStatement => "do_statement"
    | .breakStatement => "break_statement"
    | .continueStatement => "continue_statement"
    | .yieldStatement => "yield_statement"
    | .switchExpression => "switch_expression"
    | .synchronizedStatement => "synchronized_statement"
    | .throwStatement => "throw_statement"
    | .tryWithResources => "try_with_resources_statement"
    | .moduleDeclaration => "module_declaration"
    | .packageDeclaration => "package_declaration"
    | .importDeclaration => "import_declaration"
    | .classDeclaration => "class_declaration"
    | .recordDeclaration => "record_declaration"
    | .interfaceDeclaration => "interface_declaration"
    | .annotationTypeDeclaration => "annotation_type_declaration"
    | .enumDeclaration => "enum_declaration"
    | _ => ""
  | .terminal (.fixed text) => text
  | _ => ""

/-- The reason given for a statement that is kept as text. -/
def unsupportedReason (l : Label) : String :=
  if l == .kind .constructorCall then "constructor invocation"
  else "unsupported statement '" ++ statementWord l ++ "'"

/-! ### Parts -/

/-- The keyword or operator in a role; empty if there is none. -/
def Node.partWord (n : Node) (role : Role) : String := ((n.part? role).map Node.word).getD ""

/-- The text of the first part in a role; empty if there is none. -/
def Source.partText (s : Source) (n : Node) (role : Role) : String :=
  ((n.part? role).map s.text).getD ""

def lambdaParams (s : Source) (params : Node) : List String :=
  if params.label == .terminal .name then [s.text params]
  else params.named.filterMap fun p =>
    if p.label == .terminal .name then some (s.text p)
    else if p.isKind .parameter then some (s.partText p .name)
    else none

def isPlainAssignment (n : Node) : Bool := n.isKind .assignment && n.partWord .operator == "="

mutual

/-- The expression of a node whose parts nest at most as deep as the number says. -/
def readExpr (s : Source) : Nat → Node → Expr
  | 0, n => .verbatim (s.text n) (s.span n)
  | d + 1, n =>
    let part (role : Role) : Expr :=
      match n.part? role with
      | some p => readExpr s d p
      | none => .verbatim "" default
    let args : List Expr :=
      match n.part? .arguments with
      | some a => a.items.map (readExpr s d)
      | none => []
    match n.label with
    | .terminal t => terminalExpr s t n
    | .kind .parenthesized =>
      match n.items with
      | [inner] => readExpr s d inner
      | _ => .verbatim (s.text n) (s.span n)
    | .kind .stringLiteral =>
      let text := s.text n
      .literal .string (textScalar (stringValue? text.toList)) text (s.span n)
    | .kind .fieldAccess => .fieldAccess (part .object) (s.partText n .field) (s.text n) (s.span n)
    | .kind .methodCall =>
      .call ((n.part? .object).map (readExpr s d)) (s.partText n .name) args (s.text n) (s.span n)
    | .kind .creation =>
      if (n.partOf? .classBody).isSome then .verbatim (s.text n) (s.span n)
      else .new (s.partText n .type) args (s.text n) (s.span n)
    | .kind .castExpression => .cast (s.partText n .type) (part .value) (s.text n) (s.span n)
    | .kind .lambda =>
      let params := ((n.part? .parameters).map (lambdaParams s)).getD []
      let body : LambdaBody := match n.part? .body with
        | some b => if b.isKind .block then .block (readBody s d b) else .expr (readExpr s d b)
        | none => .block []
      .lambda params body (s.text n) (s.span n)
    | .kind .binary =>
      .binary (n.partWord .operator) (part .left) (part .right) (s.text n) (s.span n)
    | .kind .unary => .unary (n.partWord .operator) (part .operand) (s.text n) (s.span n)
    | _ => .verbatim (s.text n) (s.span n)

/-- The statements of a body, which is a block or a single statement. -/
def readBody (s : Source) : Nat → Node → List Stmt
  | 0, _ => []
  | d + 1, n =>
    if n.isKind .block || n.isKind .constructorBody then n.named.flatMap (readStmt s d)
    else readStmt s d n

def readStmt (s : Source) : Nat → Node → List Stmt
  | 0, _ => []
  | d + 1, n =>
    let part (role : Role) : Expr :=
      match n.part? role with
      | some p => readExpr s d p
      | none => .verbatim "" default
    let body (role : Role) : List Stmt :=
      match n.part? role with
      | some p => readBody s d p
      | none => []
    let text := s.text n
    let span := s.span n
    match n.label with
    | .comment => []
    | .error => [.verbatim text span "syntax error"]
    | .kind .block => n.named.flatMap (readStmt s d)
    | .kind .localVariables =>
      let typeName := s.partText n .type
      (n.partsIn .declarator).map fun v =>
        .localVar typeName (s.partText v .name) ((v.part? .value).map (readExpr s d)) text span
    | .kind .expressionStatement =>
      match n.named with
      | [] => []
      | e :: _ =>
        if isPlainAssignment e then
          match e.part? .left, e.part? .right with
          | some left, some right => [.assign (readExpr s d left) (readExpr s d right) text span]
          | _, _ => []
        else [.expr (readExpr s d e) text span]
    | .kind .ifStatement =>
      [.ite (part .condition) (body .consequence) (body .alternative) text span]
    | .kind .tryStatement =>
      let catches := (n.parts.map Prod.snd).filter (Node.isKind .catchClause)
      let last := (n.partOf? .finallyClause).bind (Node.partOf? · .block)
      [.try (body .body) (catches.map (readCatch s d)) (last.map (readBody s d)) text span]
    | .kind .returnStatement => [.ret (n.named.head?.map (readExpr s d)) text span]
    | l => [.verbatim text span (unsupportedReason l)]

/-- A catch clause. Its types are all that stands in its type, comments included. -/
def readCatch (s : Source) : Nat → Node → Catch
  | 0, n => .mk [] "" [] (s.span n)
  | d + 1, n =>
    let param := n.partOf? .catchParameter
    let types := ((param.bind (Node.partOf? · .catchType)).map Node.named).getD []
    let name := (param.map fun p => s.partText p .name).getD ""
    let body := match n.part? .body with
      | some b => readBody s d b
      | none => []
    .mk (types.map s.text) name body (s.span n)

end

end TestMigration.Syntax
