import TestMigration.Scalar
/-!
# Syntax trees

What the reader of a source unit keeps: the declarations of its top-level classes, the statements of
their bodies and the expressions in them. Everything a browser test is written with has a node of
its own; the rest is kept as opaque text. Every node carries the exact text it was read from and
where it stands, so that whatever is not understood later can be passed on word for word.
-/

namespace TestMigration.Syntax

/-- The lines of a node, from one and inclusive, and the column it starts in. -/
structure Span where
  startLine : Nat
  endLine : Nat
  startColumn : Nat := 1
  deriving DecidableEq, Repr, Inhabited

mutual

/-- An expression. Parentheses leave no node. -/
inductive Expr where
  | literal (kind : LiteralKind) (value : Scalar) (text : String) (span : Span)
  | name (name : String) (text : String) (span : Span)
  /-- `this` and `super`. -/
  | this (text : String) (span : Span)
  | fieldAccess (target : Expr) (name : String) (text : String) (span : Span)
  | call (target : Option Expr) (name : String) (args : List Expr) (text : String) (span : Span)
  | new (typeName : String) (args : List Expr) (text : String) (span : Span)
  | cast (typeName : String) (operand : Expr) (text : String) (span : Span)
  | lambda (params : List String) (body : LambdaBody) (text : String) (span : Span)
  | binary (op : String) (left right : Expr) (text : String) (span : Span)
  | unary (op : String) (operand : Expr) (text : String) (span : Span)
  /-- Any other expression, by its text alone. -/
  | verbatim (text : String) (span : Span)

inductive LambdaBody where
  | expr (value : Expr)
  | block (stmts : List Stmt)

/-- A statement. A block leaves no node: its statements stand in its place. -/
inductive Stmt where
  | localVar (typeName name : String) (init : Option Expr) (text : String) (span : Span)
  | assign (target value : Expr) (text : String) (span : Span)
  | expr (value : Expr) (text : String) (span : Span)
  | ite (condition : Expr) (thenBody elseBody : List Stmt) (text : String) (span : Span)
  | try (body : List Stmt) (catches : List Catch) (finallyBody : Option (List Stmt)) (text : String)
    (span : Span)
  | ret (value : Option Expr) (text : String) (span : Span)
  /-- Any other statement, with the reason why it is not understood. -/
  | verbatim (text : String) (span : Span) (reason : String)

/-- A catch clause: the alternatives of its type, its variable and its body. -/
inductive Catch where
  | mk (types : List String) (name : String) (body : List Stmt) (span : Span)

end

instance : Inhabited Expr := ⟨.verbatim "" default⟩
instance : Inhabited Stmt := ⟨.verbatim "" default ""⟩

def Expr.text : Expr → String
  | .literal _ _ text _ | .name _ text _ | .this text _ | .fieldAccess _ _ text _
  | .call _ _ _ text _ | .new _ _ text _ | .cast _ _ text _ | .lambda _ _ text _
  | .binary _ _ _ text _ | .unary _ _ text _ | .verbatim text _ => text

def Expr.span : Expr → Span
  | .literal _ _ _ span | .name _ _ span | .this _ span | .fieldAccess _ _ _ span
  | .call _ _ _ _ span | .new _ _ _ span | .cast _ _ _ span | .lambda _ _ _ span
  | .binary _ _ _ _ span | .unary _ _ _ span | .verbatim _ span => span

def Stmt.text : Stmt → String
  | .localVar _ _ _ text _ | .assign _ _ text _ | .expr _ text _ | .ite _ _ _ text _
  | .try _ _ _ text _ | .ret _ text _ | .verbatim text _ _ => text

def Stmt.span : Stmt → Span
  | .localVar _ _ _ _ span | .assign _ _ _ span | .expr _ _ span | .ite _ _ _ _ span
  | .try _ _ _ _ span | .ret _ _ span | .verbatim _ span _ => span

namespace Catch

def types : Catch → List String
  | mk types _ _ _ => types

def name : Catch → String
  | mk _ name _ _ => name

def body : Catch → List Stmt
  | mk _ _ body _ => body

def span : Catch → Span
  | mk _ _ _ span => span

end Catch

/-! ### Declarations -/

/-- An annotation with its arguments; an argument without a key has the key `value`. -/
structure Annotation where
  name : String
  arguments : Table String Expr
  text : String

structure Param where
  typeName : String
  name : String
  deriving DecidableEq, Repr

/-- One variable of a field declaration. -/
structure FieldDecl where
  typeName : String
  name : String
  modifiers : List String
  annotations : List Annotation
  init : Option Expr
  text : String
  span : Span

/-- A method or a constructor, which has an empty return type. -/
structure MethodDecl where
  name : String
  params : List Param
  returnType : String
  modifiers : List String
  annotations : List Annotation
  body : List Stmt
  text : String
  span : Span
  isConstructor : Bool := false

/-- A class: its members in source order, of nested types only the names. -/
structure ClassDecl where
  name : String
  modifiers : List String
  annotations : List Annotation
  superclass : Option String
  interfaces : List String
  fields : List FieldDecl
  methods : List MethodDecl
  nested : List String
  text : String
  span : Span

/-- A source unit as it was read. `recovered` lists the regions that could not be read. -/
structure Tree where
  unitName : String
  language : String
  package : String
  imports : List String
  classes : List ClassDecl
  recovered : List Span := []

/-- The position of the primary class: the first public one, or else the first one. -/
def Tree.primaryIndex? (t : Tree) : Option Nat :=
  match t.classes.findIdx? fun c => c.modifiers.contains "public" with
  | some i => some i
  | none => if t.classes.isEmpty then none else some 0

def Tree.primaryClass? (t : Tree) : Option ClassDecl := t.primaryIndex?.bind fun i => t.classes[i]?

/-!
### How deep syntax nests

The depth of an expression bounds how often a reader of expressions can descend, and a cast changes
nothing about what is meant.
-/

mutual

def Expr.depth : Expr → Nat
  | .literal .. | .name .. | .this .. | .verbatim .. => 1
  | .fieldAccess target _ _ _ => target.depth + 1
  | .call none _ args _ _ => depthOf args + 1
  | .call (some target) _ args _ _ => max target.depth (depthOf args) + 1
  | .new _ args _ _ => depthOf args + 1
  | .cast _ operand _ _ => operand.depth + 1
  | .lambda _ body _ _ => body.depth + 1
  | .binary _ left right _ _ => max left.depth right.depth + 1
  | .unary _ operand _ _ => operand.depth + 1

/-- How deep the deepest of several expressions nests. -/
def depthOf : List Expr → Nat
  | [] => 0
  | e :: rest => max e.depth (depthOf rest)

def LambdaBody.depth : LambdaBody → Nat
  | .expr value => value.depth
  | .block stmts => bodyDepth stmts

def Stmt.depth : Stmt → Nat
  | .localVar _ _ none _ _ | .ret none _ _ | .verbatim .. => 0
  | .localVar _ _ (some init) _ _ => init.depth
  | .assign target value _ _ => max target.depth value.depth
  | .expr value _ _ => value.depth
  | .ite condition thenBody elseBody _ _ =>
    max condition.depth (max (bodyDepth thenBody) (bodyDepth elseBody))
  | .try body catches none _ _ => max (bodyDepth body) (catchesDepth catches)
  | .try body catches (some last) _ _ =>
    max (max (bodyDepth body) (bodyDepth last)) (catchesDepth catches)
  | .ret (some value) _ _ => value.depth

def bodyDepth : List Stmt → Nat
  | [] => 0
  | s :: rest => max s.depth (bodyDepth rest)

def catchesDepth : List Catch → Nat
  | [] => 0
  | .mk _ _ body _ :: rest => max (bodyDepth body) (catchesDepth rest)

end

/-- An expression without the casts around it. -/
def Expr.stripCasts : Expr → Expr
  | .cast _ operand _ _ => operand.stripCasts
  | e => e

def Expr.ownField? : Expr → Option String
  | .fieldAccess (.this ..) field _ _ => some field
  | _ => none

def Expr.name? : Expr → Option String
  | .name n _ _ => some n
  | _ => none

def Expr.isName (text : String) (e : Expr) : Bool := e.name? == some text

end TestMigration.Syntax
