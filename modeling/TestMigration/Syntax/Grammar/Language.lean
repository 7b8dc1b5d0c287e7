import TestMigration.Syntax.Grammar.Symbol
/-!
# The grammar of the source language

The rules of Java, from the source unit down to the literal. They are wider than the language in
places: a statement may stand outside of any class, and what a name means is left open. Words are
keywords only where a rule asks for them, so the rules also say where a word such as `record` or
`yield` is a plain name.

The order of the rules counts: of two readings that nothing else tells apart, the one that takes the
earlier rule is kept.
-/

namespace TestMigration.Syntax.Rule

/-! ### Ranks -/

def binaryOperators : List (String × Int) :=
  [(">", 10), ("<", 10), (">=", 10), ("<=", 10), ("==", 9), ("!=", 9), ("&&", 5), ("||", 4),
    ("+", 12), ("-", 12), ("*", 13), ("/", 13), ("&", 8), ("|", 6), ("^", 7), ("%", 13), ("<<", 11),
    (">>", 11), (">>>", 11)]

/-- The rank of a cast: above the operators between two operands. -/
def castRank : Int := 14

def unaryRank : Int := 15

/-! ### Parts that many rules share -/

def anyName : Rule := oneOf [lexeme .name, use .softKeyword]

def typeWord : Rule := shownAs (.kind .typeName) (lexeme .name)

def annotated : Rule := many (use .annotationForm)

def modified : Rule := opt (use .modifiers)

def operandIn (role : Role) : Rule := inRole role (use .expression)

/-! ### Expressions -/

def literalRules : List (Kind × Rule) := [
  (.program, many (use .looseItem)),
  (.looseItem, oneOf [use .statement, use .methodDeclaration]),
  (.literal, oneOf [lexeme .number, "true", "false", lexeme .character, use .stringLiteral,
    "null"]),
  (.stringLiteral, oneOf [
    seq [lexeme .quote, many stringPart, lexeme .quote],
    seq [lexeme .blockQuote, many stringPart, lexeme .blockQuote]])]
where
  /-- A piece of a string: characters, or an expression in braces. -/
  stringPart : Rule := oneOf [lexeme .fragment, lexeme .escape,
    seq [lexeme .interpolation, use .expression, "\x7d"]]

def operatorRules : List (Kind × Rule) := [
  (.expression, oneOf [use .assignment, use .binary, use .typeTest, use .lambda, use .conditional,
    use .update, use .primary, use .unary, use .castExpression, use .switchExpression]),
  (.castExpression, rank castRank (oneOf [
    seq ["(", inRole .type (use .typeUse), ")", operandIn .value],
    seq ["(", separated "&" (inRole .type (use .typeUse)), ")",
      inRole .value (oneOf [use .primary, use .lambda])]])),
  (.assignment, rightward 1 (seq [
    inRole .left (oneOf [lexeme .name, use .softKeyword, use .fieldAccess, use .arrayAccess]),
    inRole .operator (oneOf ["=", "+=", "-=", "*=", "/=", "&=", "|=", "^=", "%=", "<<=", ">>=",
      ">>>="]),
    operandIn .right])),
  (.binary, oneOf (binaryOperators.map fun (op, n) =>
    leftward n (seq [operandIn .left, inRole .operator op, operandIn .right]))),
  (.typeTest, rank 10 (seq [operandIn .left, "instanceof", opt "final", oneOf [
    seq [inRole .right (use .typeUse), opt (inRole .name anyName)],
    inRole .pattern (use .recordPattern)]])),
  (.lambda, seq [
    inRole .parameters (oneOf [lexeme .name, use .parameterList, use .inferredParameters,
      use .softKeyword]),
    "->", inRole .body (oneOf [use .expression, use .block])]),
  (.inferredParameters, seq ["(", separated "," anyName, ")"]),
  (.conditional, rightward 3 (seq [operandIn .condition, "?", operandIn .consequence, ":",
    operandIn .alternative])),
  (.unary, oneOf (["+", "-", "!", "~"].map fun (op : String) =>
    leftward unaryRank (seq [inRole .operator op, operandIn .operand]))),
  (.update, leftward unaryRank (oneOf [
    seq [use .expression, "++"], seq [use .expression, "--"],
    seq ["++", use .expression], seq ["--", use .expression]]))]

def primaryRules : List (Kind × Rule) := [
  (.primary, oneOf [use .literal, use .classLiteral, "this", lexeme .name, use .softKeyword,
    use .parenthesized, use .creation, use .fieldAccess, use .arrayAccess, use .methodCall,
    use .methodReference, use .arrayCreation, use .template]),
  (.arrayCreation, rightward 0 (seq ["new", annotated, inRole .type (use .simpleType), oneOf [
    seq [inRole .dimensions (oneOrMore (use .dimensionSize)),
      inRole .dimensions (opt (use .dimensions))],
    seq [inRole .dimensions (use .dimensions), inRole .value (use .arrayValue)]]])),
  (.dimensionSize, seq [annotated, "[", use .expression, "]"]),
  (.parenthesized, seq ["(", use .expression, ")"]),
  (.classLiteral, weighted 17 (seq [use .bareType, ".", "class"])),
  (.creation, oneOf [use .plainCreation, seq [use .primary, ".", use .plainCreation]]),
  (.plainCreation, rightward 0 (seq ["new",
    oneOf [seq [annotated, inRole .typeArguments (use .typeArguments), annotated], annotated],
    inRole .type (use .simpleType), inRole .arguments (use .argumentList),
    opt (use .classBody)])),
  (.fieldAccess, seq [inRole .object (oneOf [use .primary, "super"]), opt (seq [".", "super"]),
    ".", inRole .field (oneOf [lexeme .name, use .softKeyword, "this"])]),
  (.template, seq [inRole .processor (use .primary), ".",
    inRole .templateText (use .stringLiteral)]),
  (.arrayAccess, seq [inRole .array (use .primary), "[", operandIn .index, "]"]),
  (.methodCall, seq [
    oneOf [
      inRole .name anyName,
      seq [inRole .object (oneOf [use .primary, "super"]), ".", opt (seq ["super", "."]),
        inRole .typeArguments (opt (use .typeArguments)), inRole .name anyName]],
    inRole .arguments (use .argumentList)]),
  (.argumentList, seq ["(", commas (use .expression), ")"]),
  (.methodReference, seq [oneOf [use .typeUse, use .primary, "super"], "::",
    opt (use .typeArguments), oneOf ["new", lexeme .name]]),
  (.typeArguments, seq ["<", commas (oneOf [use .typeUse, use .wildcard]), ">"]),
  (.wildcard, seq [annotated, "?", opt (use .wildcardBound)]),
  (.wildcardBound, oneOf [seq ["extends", use .typeUse], seq ["super", use .typeUse]]),
  (.dimensions, rightward 0 (oneOrMore (seq [annotated, "[", "]"])))]

def switchRules : List (Kind × Rule) := [
  (.switchExpression, seq ["switch", inRole .condition (use .parenthesized),
    inRole .body (use .switchBody)]),
  (.switchBody, seq ["\x7b", oneOf [many (use .switchGroup), many (use .switchRule)], "\x7d"]),
  (.switchGroup, leftward 0 (seq [oneOrMore (seq [use .switchLabel, ":"]),
    many (use .statement)])),
  (.switchRule, seq [use .switchLabel, "->",
    oneOf [use .expressionStatement, use .throwStatement, use .block]]),
  (.switchLabel, oneOf [
    seq ["case", oneOf [use .casePattern, separated "," (use .expression)], opt (use .caseGuard)],
    "default"]),
  (.casePattern, oneOf [use .typePattern, use .recordPattern]),
  (.typePattern, seq [use .bareType, anyName]),
  (.recordPattern, seq [oneOf [lexeme .name, use .softKeyword, use .genericType],
    use .recordPatternBody]),
  (.recordPatternBody, seq ["(", commas (oneOf [use .recordPatternPart, use .recordPattern]),
    ")"]),
  (.recordPatternPart, oneOf ["_", seq [use .bareType, anyName]]),
  (.caseGuard, seq ["when", use .expression])]

/-! ### Statements -/

def statementRules : List (Kind × Rule) := [
  (.statement, oneOf [use .declaration, use .expressionStatement, use .labeledStatement,
    use .ifStatement, use .whileStatement, use .forStatement, use .forEachStatement, use .block,
    ";", use .assertStatement, use .doStatement, use .breakStatement, use .continueStatement,
    use .returnStatement, use .yieldStatement, use .switchExpression, use .synchronizedStatement,
    use .localVariables, use .throwStatement, use .tryStatement, use .tryWithResources]),
  (.block, seq ["\x7b", many (use .statement), "\x7d"]),
  (.expressionStatement, seq [use .expression, ";"]),
  (.labeledStatement, seq [lexeme .name, ":", use .statement]),
  (.assertStatement, oneOf [
    seq ["assert", use .expression, ";"],
    seq ["assert", use .expression, ":", use .expression, ";"]]),
  (.doStatement, seq ["do", inRole .body (use .statement), "while",
    inRole .condition (use .parenthesized), ";"]),
  (.breakStatement, seq ["break", opt (lexeme .name), ";"]),
  (.continueStatement, seq ["continue", opt (lexeme .name), ";"]),
  (.returnStatement, seq ["return", opt (use .expression), ";"]),
  (.yieldStatement, seq ["yield", use .expression, ";"]),
  (.synchronizedStatement, seq ["synchronized", use .parenthesized, inRole .body (use .block)]),
  (.throwStatement, seq ["throw", use .expression, ";"]),
  (.tryStatement, seq ["try", inRole .body (use .block), oneOf [
    oneOrMore (use .catchClause),
    seq [many (use .catchClause), use .finallyClause]]]),
  (.catchClause, seq ["catch", "(", use .catchParameter, ")", inRole .body (use .block)]),
  (.catchParameter, seq [modified, use .catchType, use .declaratorName]),
  (.catchType, separated "|" (use .bareType)),
  (.finallyClause, seq ["finally", use .block]),
  (.tryWithResources, seq ["try", inRole .resources (use .resourceList), inRole .body (use .block),
    many (use .catchClause), opt (use .finallyClause)]),
  (.resourceList, seq ["(", separated ";" (use .resourceItem), opt ";", ")"]),
  (.resourceItem, oneOf [
    seq [modified, inRole .type (use .bareType), use .declaratorName, "=", operandIn .value],
    lexeme .name, use .fieldAccess]),
  (.ifStatement, rightward 0 (seq ["if", inRole .condition (use .parenthesized),
    inRole .consequence (use .statement),
    opt (seq ["else", inRole .alternative (use .statement)])])),
  (.whileStatement, seq ["while", inRole .condition (use .parenthesized),
    inRole .body (use .statement)]),
  (.forStatement, seq ["for", "(",
    oneOf [inRole .init (use .localVariables), seq [commas (operandIn .init), ";"]],
    inRole .condition (opt (use .expression)), ";", commas (operandIn .update), ")",
    inRole .body (use .statement)]),
  (.forEachStatement, seq ["for", "(", modified, inRole .type (use .bareType), use .declaratorName,
    ":", operandIn .value, ")", inRole .body (use .statement)])]

/-! ### Annotations and declarations -/

def annotationRules : List (Kind × Rule) := [
  (.annotationForm, oneOf [use .annotationBare, use .annotationApplied]),
  (.annotationBare, seq ["@", inRole .name (use .qualifiedName)]),
  (.annotationApplied, seq ["@", inRole .name (use .qualifiedName),
    inRole .arguments (use .annotationArguments)]),
  (.annotationArguments, seq ["(", oneOf [use .annotationValue, commas (use .annotationPair)],
    ")"]),
  (.annotationPair, seq [inRole .key anyName, "=", inRole .value (use .annotationValue)]),
  (.annotationValue, rank 2 (oneOf [use .expression, use .annotationValueList,
    use .annotationForm])),
  (.annotationValueList, seq ["\x7b", commas (use .annotationValue), opt ",", "\x7d"])]

def moduleRules : List (Kind × Rule) := [
  (.declaration, rank 2 (oneOf [use .moduleDeclaration, use .packageDeclaration,
    use .importDeclaration, use .classDeclaration, use .recordDeclaration,
    use .interfaceDeclaration, use .annotationTypeDeclaration, use .enumDeclaration])),
  (.moduleDeclaration, seq [annotated, opt "open", "module", inRole .name (use .qualifiedName),
    inRole .body (use .moduleBody)]),
  (.moduleBody, seq ["\x7b", many (use .moduleDirective), "\x7d"]),
  (.moduleDirective, oneOf [use .requiresDirective, use .exportsDirective, use .opensDirective,
    use .usesDirective, use .providesDirective]),
  (.requiresDirective, seq ["requires", many (inRole .modifiers (use .requiresModifier)),
    inRole .moduleName (use .qualifiedName), ";"]),
  (.requiresModifier, oneOf ["transitive", "static"]),
  (.exportsDirective, packageTo "exports"),
  (.opensDirective, packageTo "opens"),
  (.usesDirective, seq ["uses", inRole .type (use .qualifiedName), ";"]),
  (.providesDirective, seq ["provides", inRole .provided (use .qualifiedName), "with",
    use .qualifiedName, many (seq [",", inRole .provider (use .qualifiedName)]), ";"]),
  (.packageDeclaration, seq [annotated, "package", use .qualifiedName, ";"]),
  (.importDeclaration, seq ["import", opt "static", use .qualifiedName,
    opt (seq [".", use .importAll]), ";"]),
  (.importAll, "*")]
where
  /-- A directive that opens a package to modules. -/
  packageTo (word : String) : Rule :=
    seq [word, inRole .packageName (use .qualifiedName),
      opt (seq ["to", separated "," (inRole .moduleNames (use .qualifiedName))]), ";"]

def classRules : List (Kind × Rule) := [
  (.enumDeclaration, seq [modified, "enum", inRole .name (lexeme .name),
    inRole .interfaces (opt (use .superInterfaces)), inRole .body (use .enumBody)]),
  (.enumBody, seq ["\x7b", commas (use .enumConstant), opt ",", opt (use .enumBodyDeclarations),
    "\x7d"]),
  (.enumBodyDeclarations, seq [";", many (use .classMember)]),
  (.enumConstant, seq [modified, inRole .name (lexeme .name),
    inRole .arguments (opt (use .argumentList)), inRole .body (opt (use .classBody))]),
  (.classDeclaration, seq [modified, "class", inRole .name (lexeme .name),
    opt (inRole .typeParameters (use .typeParameters)), opt (inRole .superclass (use .superclass)),
    opt (inRole .interfaces (use .superInterfaces)), opt (inRole .permits (use .permittedTypes)),
    inRole .body (use .classBody)]),
  (.modifiers, oneOrMore (oneOf [use .annotationForm, "public", "protected", "private", "abstract",
    "static", "final", "strictfp", "default", "synchronized", "native", "transient", "volatile",
    "sealed", "non-sealed"])),
  (.typeParameters, seq ["<", separated "," (use .typeParameter), ">"]),
  (.typeParameter, seq [annotated, typeWord, opt (use .typeBound)]),
  (.typeBound, seq ["extends", separated "&" (use .typeUse)]),
  (.superclass, seq ["extends", use .typeUse]),
  (.superInterfaces, seq ["implements", use .typeList]),
  (.typeList, separated "," (use .typeUse)),
  (.permittedTypes, seq ["permits", use .typeList]),
  (.classBody, seq ["\x7b", many (use .classMember), "\x7d"]),
  (.classMember, oneOf [use .fieldDeclaration, use .recordDeclaration, use .methodDeclaration,
    use .compactConstructor, use .classDeclaration, use .interfaceDeclaration,
    use .annotationTypeDeclaration, use .enumDeclaration, use .block, use .staticInitializer,
    use .constructorDeclaration, ";"]),
  (.staticInitializer, seq ["static", use .block]),
  (.constructorDeclaration, seq [modified, use .constructorHead, opt (use .throwsClause),
    inRole .body (use .constructorBody)]),
  (.constructorHead, seq [inRole .typeParameters (opt (use .typeParameters)),
    inRole .name (lexeme .name), inRole .parameters (use .parameterList)]),
  (.constructorBody, seq ["\x7b", opt (use .constructorCall), many (use .statement), "\x7d"]),
  (.constructorCall, seq [
    oneOf [
      seq [inRole .typeArguments (opt (use .typeArguments)),
        inRole .constructor (oneOf ["this", "super"])],
      seq [inRole .object (use .primary), ".", inRole .typeArguments (opt (use .typeArguments)),
        inRole .constructor "super"]],
    inRole .arguments (use .argumentList), ";"]),
  (.qualifiedName, oneOf [lexeme .name, use .softKeyword, use .scopedName]),
  (.scopedName, seq [inRole .scope (use .qualifiedName), ".", inRole .name (lexeme .name)]),
  (.fieldDeclaration, variableRule)]
where
  variableRule : Rule :=
    seq [modified, inRole .type (use .bareType), use .declaratorList, ";"]

def typeRules : List (Kind × Rule) := [
  (.recordDeclaration, seq [modified, "record", inRole .name (lexeme .name),
    opt (inRole .typeParameters (use .typeParameters)), inRole .parameters (use .parameterList),
    opt (inRole .interfaces (use .superInterfaces)), inRole .body (use .classBody)]),
  (.annotationTypeDeclaration, seq [modified, "@interface", inRole .name (lexeme .name),
    inRole .body (use .annotationTypeBody)]),
  (.annotationTypeBody, seq ["\x7b", many (oneOf [use .annotationTypeElement,
    use .constantDeclaration, use .classDeclaration, use .interfaceDeclaration,
    use .enumDeclaration, use .annotationTypeDeclaration, ";"]), "\x7d"]),
  (.annotationTypeElement, seq [modified, inRole .type (use .bareType), inRole .name anyName, "(",
    ")", inRole .dimensions (opt (use .dimensions)), opt (use .defaultValue), ";"]),
  (.defaultValue, seq ["default", inRole .value (use .annotationValue)]),
  (.interfaceDeclaration, seq [modified, "interface", inRole .name (lexeme .name),
    inRole .typeParameters (opt (use .typeParameters)), opt (use .extendedInterfaces),
    opt (inRole .permits (use .permittedTypes)), inRole .body (use .interfaceBody)]),
  (.extendedInterfaces, seq ["extends", use .typeList]),
  (.interfaceBody, seq ["\x7b", many (oneOf [use .constantDeclaration, use .enumDeclaration,
    use .methodDeclaration, use .classDeclaration, use .interfaceDeclaration,
    use .recordDeclaration, use .annotationTypeDeclaration, ";"]), "\x7d"]),
  (.constantDeclaration, classRules.variableRule),
  (.declaratorList, separated "," (inRole .declarator (use .declarator))),
  (.declarator, seq [use .declaratorName, opt (seq ["=", inRole .value (use .variableValue)])]),
  (.declaratorName, seq [inRole .name (oneOf [lexeme .name, use .softKeyword, "_"]),
    inRole .dimensions (opt (use .dimensions))]),
  (.variableValue, oneOf [use .expression, use .arrayValue]),
  (.arrayValue, seq ["\x7b", commas (use .variableValue), opt ",", "\x7d"]),
  (.typeUse, oneOf [use .bareType, use .annotatedType]),
  (.bareType, oneOf [use .simpleType, use .arrayType]),
  (.simpleType, oneOf ["void", use .integralType, use .floatingType, "boolean", typeWord,
    use .scopedType, use .genericType]),
  (.annotatedType, seq [oneOrMore (use .annotationForm), use .bareType]),
  (.scopedType, seq [oneOf [typeWord, use .scopedType, use .genericType], ".", annotated,
    typeWord]),
  (.genericType, weighted 10 (seq [oneOf [typeWord, use .scopedType], use .typeArguments])),
  (.arrayType, seq [inRole .element (use .bareType), inRole .dimensions (use .dimensions)]),
  (.integralType, oneOf ["byte", "short", "int", "long", "char"]),
  (.floatingType, oneOf ["float", "double"])]

def methodRules : List (Kind × Rule) := [
  (.methodHeader, seq [opt (seq [inRole .typeParameters (use .typeParameters), annotated]),
    inRole .type (use .bareType), use .methodHead, opt (use .throwsClause)]),
  (.methodHead, seq [inRole .name anyName, inRole .parameters (use .parameterList),
    inRole .dimensions (opt (use .dimensions))]),
  (.parameterList, seq ["(", oneOf [
    use .receiverParameter,
    seq [opt (seq [use .receiverParameter, ","]),
      commas (oneOf [use .parameter, use .spreadParameter])]], ")"]),
  (.parameter, seq [modified, inRole .type (use .bareType), use .declaratorName]),
  (.receiverParameter, seq [annotated, use .bareType, many (seq [lexeme .name, "."]), "this"]),
  (.spreadParameter, seq [modified, use .bareType, "...", annotated, use .declarator]),
  (.throwsClause, seq ["throws", separated "," (use .typeUse)]),
  (.localVariables, classRules.variableRule),
  (.methodDeclaration, seq [modified, use .methodHeader,
    oneOf [inRole .body (use .block), ";"]]),
  (.compactConstructor, seq [modified, inRole .name (lexeme .name), inRole .body (use .block)]),
  (.softKeyword, oneOf [
    rank (-3) (shownAs (.terminal .name) (oneOf ["open", "module", "record", "with", "sealed"])),
    shownAs (.terminal .name) "yield"])]

/-- All rules, the one for a whole source unit first. -/
def all : List (Kind × Rule) :=
  literalRules ++ operatorRules ++ primaryRules ++ switchRules ++ statementRules
    ++ annotationRules ++ moduleRules ++ classRules ++ typeRules ++ methodRules

end TestMigration.Syntax.Rule
