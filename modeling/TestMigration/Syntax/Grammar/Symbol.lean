/-!
# Symbols and rules of the grammar

Every rule of the grammar is known by a kind, and the kind is what a node of a parse tree is later
asked for. Not every kind leaves a node: some only give a name to a choice or to a part that several
rules share.

A rule is written with sequences, choices and repetitions. Where that leaves more than one reading,
two kinds of hints decide. A *rank* orders the alternatives while the tables are built: the higher
rank is taken, and of two equal ranks the side says whether to close the reading on the left or to
go on. A *weight* is for readings that are all followed: it is summed up over the tree, and the
heavier tree wins.
-/

namespace TestMigration.Syntax

inductive Kind where
  | program
  | looseItem
  | literal
  | stringLiteral
  | expression
  | castExpression
  | assignment
  | binary
  | typeTest
  | lambda
  | inferredParameters
  | conditional
  | unary
  | update
  | primary
  | arrayCreation
  | dimensionSize
  | parenthesized
  | classLiteral
  | creation
  | plainCreation
  | fieldAccess
  | template
  | arrayAccess
  | methodCall
  | argumentList
  | methodReference
  | typeArguments
  | wildcard
  | wildcardBound
  | dimensions
  | switchExpression
  | switchBody
  | switchGroup
  | switchRule
  | switchLabel
  | casePattern
  | typePattern
  | recordPattern
  | recordPatternBody
  | recordPatternPart
  | caseGuard
  | statement
  | block
  | expressionStatement
  | labeledStatement
  | assertStatement
  | doStatement
  | breakStatement
  | continueStatement
  | returnStatement
  | yieldStatement
  | synchronizedStatement
  | throwStatement
  | tryStatement
  | catchClause
  | catchParameter
  | catchType
  | finallyClause
  | tryWithResources
  | resourceList
  | resourceItem
  | ifStatement
  | whileStatement
  | forStatement
  | forEachStatement
  | annotationForm
  | annotationBare
  | annotationApplied
  | annotationArguments
  | annotationPair
  | annotationValue
  | annotationValueList
  | declaration
  | moduleDeclaration
  | moduleBody
  | moduleDirective
  | requiresDirective
  | requiresModifier
  | exportsDirective
  | opensDirective
  | usesDirective
  | providesDirective
  | packageDeclaration
  | importDeclaration
  | importAll
  | enumDeclaration
  | enumBody
  | enumBodyDeclarations
  | enumConstant
  | classDeclaration
  | modifiers
  | typeParameters
  | typeParameter
  | typeBound
  | superclass
  | superInterfaces
  | typeList
  | permittedTypes
  | classBody
  | classMember
  | staticInitializer
  | constructorDeclaration
  | constructorHead
  | constructorBody
  | constructorCall
  | qualifiedName
  | scopedName
  | fieldDeclaration
  | recordDeclaration
  | annotationTypeDeclaration
  | annotationTypeBody
  | annotationTypeElement
  | defaultValue
  | interfaceDeclaration
  | extendedInterfaces
  | interfaceBody
  | constantDeclaration
  | declaratorList
  | declarator
  | declaratorName
  | variableValue
  | arrayValue
  | typeUse
  | bareType
  | simpleType
  | annotatedType
  | scopedType
  | genericType
  | arrayType
  | integralType
  | floatingType
  | methodHeader
  | methodHead
  | parameterList
  | parameter
  | receiverParameter
  | spreadParameter
  | throwsClause
  | localVariables
  | methodDeclaration
  | compactConstructor
  | softKeyword
  | typeName
  deriving DecidableEq, Repr, Hashable

/-- The kinds that only choose between other kinds. Their nodes are never seen, but take part in the
comparison of two readings. -/
def Kind.isChoice : Kind → Bool
  | expression | declaration | statement | primary | literal | typeUse | simpleType | bareType
  | moduleDirective => true
  | _ => false

/-- The kinds without a node of their own: what they contain belongs to the node around them. -/
def Kind.isHidden : Kind → Bool
  | looseItem | plainCreation | wildcardBound | annotationForm | annotationValue | classMember
  | constructorHead | qualifiedName | defaultValue | declaratorList | declaratorName | variableValue
  | methodHeader | methodHead | softKeyword => true
  | k => k.isChoice

/-- The kinds that are replaced by their alternatives wherever they are used. -/
def Kind.isInlined : Kind → Bool
  | qualifiedName | simpleType | classMember | variableValue => true
  | _ => false

inductive Role where
  | type
  | value
  | left
  | operator
  | right
  | name
  | pattern
  | parameters
  | body
  | condition
  | consequence
  | alternative
  | operand
  | dimensions
  | typeArguments
  | arguments
  | object
  | field
  | processor
  | templateText
  | array
  | index
  | resources
  | init
  | update
  | key
  | modifiers
  | moduleName
  | packageName
  | moduleNames
  | provided
  | provider
  | interfaces
  | typeParameters
  | superclass
  | permits
  | constructor
  | scope
  | declarator
  | element
  deriving DecidableEq, Repr, Hashable

/-- What the grammar tells apart among the lexemes. -/
inductive Terminal where
  | finish
  /-- A word that is no keyword where it stands. -/
  | name
  | number
  | character
  /-- The quote at either end of a string. -/
  | quote
  | blockQuote
  /-- Characters of a string that stand for themselves. -/
  | fragment
  | escape
  /-- What opens an expression inside a string. -/
  | interpolation
  /-- A keyword, an operator or a bracket. -/
  | fixed (text : String)
  deriving DecidableEq, Repr, Hashable

/-- The fixed terminals that are nodes of interest in themselves, not only marks between nodes. -/
def Terminal.isNamed : Terminal → Bool
  | fixed text =>
    ["this", "super", "true", "false", "null", "_", "boolean", "void"].contains text
  | _ => true

/-- What a node is seen as. -/
inductive Label where
  | kind (k : Kind)
  | terminal (t : Terminal)
  | comment
  /-- A stretch of text that does not fit. -/
  | error
  deriving DecidableEq, Repr, Hashable

/-- Whether a label is more than a mark between nodes. -/
def Label.isNamed : Label → Bool
  | kind _ | comment | error => true
  | terminal t => t.isNamed

/-- A symbol on the right-hand side of a production. -/
inductive Symbol where
  | terminal (t : Terminal)
  | rule (k : Kind)
  | repetition (n : Nat)
  deriving DecidableEq, Repr, Hashable

/-- Whether a symbol has no node of its own. -/
def Symbol.isHidden : Symbol → Bool
  | terminal _ => false
  | rule k => k.isHidden
  | repetition _ => true

/-! ### Rules -/

inductive Side where
  | left
  | right
  deriving DecidableEq, Repr, Hashable

inductive Rule where
  | empty
  | symbol (s : Symbol)
  | both (first second : Rule)
  | either (first second : Rule)
  | oneOrMore (body : Rule)
  | ranked (rank : Int) (side : Option Side) (body : Rule)
  | weighted (weight : Int) (body : Rule)
  | inRole (role : Role) (body : Rule)
  | shownAs (label : Label) (body : Rule)
  deriving DecidableEq, Repr

namespace Rule

instance : Coe String Rule := ⟨fun text => symbol (.terminal (.fixed text))⟩

def lexeme (t : Terminal) : Rule := symbol (.terminal t)

def use (k : Kind) : Rule := symbol (.rule k)

def seq : List Rule → Rule
  | [] => empty
  | [r] => r
  | r :: rest => both r (seq rest)

def oneOf : List Rule → Rule
  | [] => empty
  | [r] => r
  | r :: rest => either r (oneOf rest)

def opt (r : Rule) : Rule := either r empty

def many (r : Rule) : Rule := opt (oneOrMore r)

def separated (separator : String) (item : Rule) : Rule :=
  seq [item, many (seq [separator, item])]

def commas (item : Rule) : Rule := opt (separated "," item)

def rank (n : Int) (r : Rule) : Rule := ranked n none r

def leftward (n : Int) (r : Rule) : Rule := ranked n (some .left) r

def rightward (n : Int) (r : Rule) : Rule := ranked n (some .right) r

end Rule

end TestMigration.Syntax
