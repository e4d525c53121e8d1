import ApiSurvey.Java.Rule

/-!
# The grammar

The rules of Java up to release 21. Expressions are read as a flat list of operands with operators
between them: how strongly operators bind makes no difference to what is declared. The top level of
a file is any sequence of declarations, statements and methods.
-/

namespace ApiSurvey.Java

open Rule
open Construct hiding all
open Terminal (closeAngle identifier number character stringText escape blockText blockEscape
  droppedEscape)

namespace Grammar

def openBrace : Rule := "\x7b"

def closeBrace : Rule := "\x7d"

def braced (r : Rule) : Rule := sequence [openBrace, r, closeBrace]

def bracketed (r : Rule) : Rule := sequence ["(", r, ")"]

def commaList (r : Rule) : Rule := optional (separated r ",")

/-- Words that are keywords in some places and names in all others. -/
def contextualWords : List Rule := ["open", "module", "record", "with", "sealed", "yield"]

def modifierWords : List Rule :=
  ["public", "protected", "private", "abstract", "static", "final", "strictfp", "default",
   "synchronized", "native", "transient", "volatile", "sealed", "non-sealed"]

/-- The types without a class, and the absence of a type. -/
def primitiveNames : List Rule :=
  ["void", "byte", "short", "int", "long", "char", "float", "double", "boolean"]

def annotations : Rule := many annotationUse

/-- The name that a declarator introduces, with array brackets behind it. -/
def declaratorId : Rule := .seq (as .name simpleName) (optional (as .dimensions dimensions))

/-- The type and the declarators of a variable. -/
def variableList : Rule :=
  sequence [optional modifiers, as .type unannotatedType,
    separated (as .declarator variableDeclarator) ",", ";"]

def typeList : Rule := separated type ","

def binaryOperators : List Rule :=
  [">", "<", ">=", "<=", "==", "!=", "&&", "||", "+", "-", "*", "/", "&", "|", "^", "%", "<<",
   ">>", ">>>"]

def compoundOperators : List Rule :=
  ["+=", "-=", "*=", "/=", "&=", "|=", "^=", "%=", "<<=", ">>=", ">>>="]

/-- What may stand before the operand of an expression, apart from a plain assignment to a
name. -/
def lead : Rule :=
  anyOf <|
    ["+", "-", "!", "~", "++", "--",
     bracketed (separated type "&"),
     .seq (anyOf [simpleName, formalParameters, inferredParameters]) "->",
     .seq simpleName (anyOf compoundOperators),
     .seq (anyOf [fieldAccess, arrayAccess]) (anyOf ("=" :: compoundOperators))]

def plainAssignment : Rule := .seq simpleName "="

/-- What stands between two operands. -/
def between : Rule := anyOf (sequence ["?", expression, ":"] :: binaryOperators)

def core : Rule :=
  anyOf
    [primary,
     sequence [anyOf [simpleName, formalParameters, inferredParameters], "->", block],
     switchExpression]

/-- What may stand after the operand. -/
def trail : Rule :=
  anyOf
    ["++", "--",
     sequence ["instanceof", optional "final",
       anyOf [.seq type (optional simpleName), recordPattern]]]

/-- The name of a type that ends with type arguments. -/
def genericName : Rule :=
  sequence [many (sequence [identifier, optional typeArguments, ".", annotations]), identifier,
    typeArguments]

/-- The object of a member access and the dot behind it. -/
def receiver : Rule := .seq (anyOf [primary, "super"]) "."

/-- A parameter list: a receiver may come first. -/
def parameterList : Rule :=
  let parameter := anyOf [formalParameter, spreadParameter]
  anyOf
    [.empty,
     receiverParameter,
     .seq receiverParameter ",",
     .seq (optional (.seq receiverParameter ",")) (separated parameter ",")]

/-- The type declarations that may be members of every other. -/
def memberType : Rule :=
  anyOf [classDeclaration, interfaceDeclaration, enumDeclaration, annotationTypeDeclaration]

def rule : Construct → Rule
  | .program => many (anyOf [statement, methodDeclaration])
  -- names and types
  | .simpleName => anyOf (identifier :: contextualWords)
  | .qualifiedName =>
      .seq (anyOf (identifier :: contextualWords)) (many (.seq "." identifier))
  | .type => anyOf [unannotatedType, annotatedType]
  | .unannotatedType => anyOf [simpleType, arrayType]
  | .annotatedType => .seq (.repeated annotationUse) unannotatedType
  | .arrayType => .seq (as .element simpleType) (as .dimensions dimensions)
  | .simpleType => anyOf [primitiveType, namedType]
  | .primitiveType => anyOf primitiveNames
  | .namedType =>
      sequence [identifier, optional typeArguments,
        many (sequence [".", annotations, identifier, optional typeArguments])]
  | .typeArguments => sequence ["<", commaList (anyOf [type, wildcard]), closeAngle]
  | .wildcard =>
      sequence [annotations, "?", optional (.seq (anyOf ["extends", "super"]) type)]
  | .dimensions => .repeated (sequence [annotations, "[", "]"])
  | .typeParameters => sequence ["<", separated typeParameter ",", closeAngle]
  | .typeParameter =>
      sequence [annotations, identifier, optional (.seq "extends" (separated type "&"))]
  -- annotations
  | .modifiers => .repeated (anyOf (annotationUse :: modifierWords))
  | .annotationUse =>
      sequence ["@", as .name qualifiedName, optional (as .arguments annotationArguments)]
  | .annotationArguments =>
      bracketed (anyOf
        [positionalExpression, elementArray, annotationUse, commaList elementPair])
  | .elementPair => sequence [as .key simpleName, "=", as .value elementValue]
  | .elementValue => anyOf [expression, elementArray, annotationUse]
  | .elementArray => braced (.seq (commaList elementValue) (optional ","))
  | .positionalExpression =>
      sequence [optional (.seq lead (many (anyOf [lead, plainAssignment]))), core, many trail,
        many (.seq between operand)]
  -- expressions
  | .expression => .seq operand (many (.seq between operand))
  | .operand => sequence [many (anyOf [lead, plainAssignment]), core, many trail]
  | .target => anyOf [simpleName, fieldAccess, arrayAccess]
  | .fieldAccess =>
      sequence [anyOf [primary, "super"], optional (.seq "." "super"), ".",
        anyOf [simpleName, "this"]]
  | .arrayAccess => sequence [primary, "[", expression, "]"]
  | .primary =>
      anyOf
        [target, literal, stringLiteral, classLiteral, selfReference, parenthesized, creation,
         arrayCreation, invocation, methodReference, template]
  | .literal => anyOf [number, character, "true", "false", "null"]
  | .selfReference => "this"
  | .stringLiteral =>
      let quote : Rule := "\""
      let blockQuote : Rule := "\"\"\""
      anyOf
        [sequence [quote, many (anyOf [stringText, escape, interpolation]), quote],
         sequence [blockQuote,
           many (anyOf [blockText, blockEscape, droppedEscape, interpolation]), blockQuote]]
  | .interpolation => sequence ["\\\x7b", expression, closeBrace]
  | .classLiteral => sequence [unannotatedType, ".", "class"]
  | .parenthesized => bracketed expression
  | .creation =>
      sequence [optional (.seq primary "."), "new", annotations,
        optional (.seq typeArguments annotations), simpleType, arguments, optional classBody]
  | .arrayCreation =>
      sequence ["new", annotations, simpleType,
        anyOf [.seq (.repeated dimensionExpression) (optional dimensions),
          .seq dimensions arrayInitializer]]
  | .dimensionExpression => sequence [annotations, "[", expression, "]"]
  | .invocation =>
      .seq (anyOf
        [simpleName,
         sequence [receiver, optional (.seq "super" "."), optional typeArguments, simpleName]])
        arguments
  | .methodReference =>
      sequence [anyOf [type, primary, "super"], "::", optional typeArguments,
        anyOf ["new", simpleName]]
  | .template => sequence [primary, ".", stringLiteral]
  | .arguments => bracketed (commaList expression)
  | .inferredParameters => bracketed (separated simpleName ",")
  | .switchExpression => sequence ["switch", parenthesized, switchBlock]
  | .switchBlock => braced (anyOf [many switchGroup, .repeated switchRule])
  | .switchGroup => .seq (.repeated (.seq switchLabel ":")) (many statement)
  | .switchRule =>
      sequence [switchLabel, "->", anyOf [expressionStatement, throwStatement, block]]
  | .switchLabel =>
      anyOf
        [sequence ["case", anyOf [typePattern, recordPattern, separated expression ","],
           optional guard],
         "default"]
  | .typePattern => .seq unannotatedType simpleName
  | .recordPattern =>
      .seq (anyOf [simpleName, genericName])
        (bracketed (commaList (anyOf ["_", .seq unannotatedType simpleName, recordPattern])))
  | .guard => .seq "when" expression
  -- statements
  | .statement =>
      anyOf
        [declaration, expressionStatement, labeledStatement, ifStatement, whileStatement,
         forStatement, enhancedForStatement, block, ";", assertStatement, doStatement,
         jumpStatement, returnStatement, yieldStatement, switchExpression,
         synchronizedStatement, localVariableDeclaration, throwStatement, tryStatement]
  | .block => braced (many statement)
  | .expressionStatement => .seq expression ";"
  | .labeledStatement => sequence [identifier, ":", statement]
  | .ifStatement =>
      sequence ["if", parenthesized, statement, optional (.seq "else" statement)]
  | .whileStatement => sequence ["while", parenthesized, statement]
  | .doStatement => sequence ["do", statement, "while", parenthesized, ";"]
  | .forStatement =>
      sequence ["for", "(",
        anyOf [localVariableDeclaration, .seq (commaList expression) ";"],
        optional expression, ";", commaList expression, ")", statement]
  | .enhancedForStatement =>
      sequence ["for", "(", optional modifiers, unannotatedType, declaratorId, ":", expression,
        ")", statement]
  | .assertStatement => sequence ["assert", expression, optional (.seq ":" expression), ";"]
  | .jumpStatement => sequence [anyOf ["break", "continue"], optional identifier, ";"]
  | .returnStatement => sequence ["return", optional expression, ";"]
  | .yieldStatement => sequence ["yield", expression, ";"]
  | .throwStatement => sequence ["throw", expression, ";"]
  | .synchronizedStatement => sequence ["synchronized", parenthesized, block]
  | .tryStatement =>
      .seq "try" (anyOf
        [.seq block (anyOf [.repeated catchClause, .seq (many catchClause) finallyClause]),
         sequence [resources, block, many catchClause, optional finallyClause]])
  | .catchClause => sequence ["catch", bracketed catchParameter, block]
  | .catchParameter =>
      sequence [optional modifiers, separated unannotatedType "|", declaratorId]
  | .finallyClause => .seq "finally" block
  | .resources => bracketed (.seq (separated resource ";") (optional ";"))
  | .resource =>
      anyOf
        [sequence [optional modifiers, unannotatedType, declaratorId, "=", expression],
         identifier, fieldAccess]
  | .localVariableDeclaration => variableList
  | .variableDeclarator =>
      .seq declaratorId (optional (.seq "=" (anyOf [expression, arrayInitializer])))
  | .arrayInitializer =>
      braced (.seq (commaList (anyOf [expression, arrayInitializer])) (optional ","))
  -- declarations
  | .declaration =>
      anyOf
        [moduleDeclaration, packageDeclaration, importDeclaration, recordDeclaration, memberType]
  | .moduleDeclaration =>
      sequence [annotations, optional "open", "module", qualifiedName,
        braced (many moduleDirective)]
  | .moduleDirective =>
      let names := separated qualifiedName ","
      .seq (anyOf
        [sequence ["requires", many (anyOf ["transitive", "static"]), qualifiedName],
         sequence [anyOf ["exports", "opens"], qualifiedName, optional (.seq "to" names)],
         .seq "uses" qualifiedName,
         sequence ["provides", qualifiedName, "with", names]]) ";"
  | .packageDeclaration => sequence [annotations, "package", qualifiedName, ";"]
  | .importDeclaration =>
      sequence ["import", optional "static", qualifiedName, optional (.seq "." "*"), ";"]
  | .classDeclaration =>
      sequence [optional modifiers, "class", as .name identifier, optional typeParameters,
        optional superclass, optional superInterfaces, optional permits, as .body classBody]
  | .recordDeclaration =>
      sequence [optional modifiers, "record", as .name identifier, optional typeParameters,
        as .parameters formalParameters, optional superInterfaces, as .body classBody]
  | .interfaceDeclaration =>
      sequence [optional modifiers, "interface", as .name identifier, optional typeParameters,
        optional extendsInterfaces, optional permits, as .body interfaceBody]
  | .annotationTypeDeclaration =>
      sequence [optional modifiers, "@interface", as .name identifier,
        as .body annotationTypeBody]
  | .enumDeclaration =>
      sequence [optional modifiers, "enum", as .name identifier, optional superInterfaces,
        as .body enumBody]
  | .superclass => .seq "extends" type
  | .superInterfaces => .seq "implements" typeList
  | .extendsInterfaces => .seq "extends" typeList
  | .permits => .seq "permits" typeList
  | .classBody => braced (many member)
  | .member =>
      anyOf
        [fieldDeclaration, recordDeclaration, methodDeclaration, compactConstructor, block,
         staticInitializer, constructorDeclaration, ";", memberType]
  | .interfaceBody =>
      braced (many (anyOf
        [constantDeclaration, recordDeclaration, methodDeclaration, ";", memberType]))
  | .annotationTypeBody =>
      braced (many (anyOf [annotationElement, constantDeclaration, memberType]))
  | .enumBody =>
      braced (sequence
        [commaList enumConstant, optional ",", optional enumBodyDeclarations])
  | .enumConstant =>
      sequence [optional modifiers, as .name identifier, optional arguments,
        optional (as .body classBody)]
  | .enumBodyDeclarations => .seq ";" (many member)
  | .fieldDeclaration => variableList
  | .constantDeclaration => variableList
  | .methodDeclaration =>
      sequence [optional modifiers, optional (.seq typeParameters annotations),
        as .type unannotatedType, as .name simpleName, as .parameters formalParameters,
        optional (as .dimensions dimensions), optional throwsClause,
        anyOf [as .body block, ";"]]
  | .constructorDeclaration =>
      sequence [optional modifiers, optional typeParameters, as .name identifier,
        as .parameters formalParameters, optional throwsClause, as .body constructorBody]
  | .constructorBody => braced (.seq (optional explicitInvocation) (many statement))
  | .explicitInvocation =>
      sequence [anyOf
        [.seq (optional typeArguments) (anyOf ["this", "super"]),
         sequence [primary, ".", optional typeArguments, "super"]], arguments, ";"]
  | .compactConstructor =>
      sequence [optional modifiers, as .name identifier, as .body block]
  | .staticInitializer => .seq "static" block
  | .annotationElement =>
      sequence [optional modifiers, as .type unannotatedType, as .name simpleName, "(", ")",
        optional (as .dimensions dimensions), optional (.seq "default" elementValue), ";"]
  | .formalParameters => bracketed parameterList
  | .formalParameter => sequence [optional modifiers, as .type unannotatedType, declaratorId]
  | .spreadParameter =>
      sequence [optional modifiers, unannotatedType, "...", annotations, variableDeclarator]
  | .receiverParameter =>
      sequence [annotations, unannotatedType, many (.seq identifier "."), "this"]
  | .throwsClause => .seq "throws" typeList

def table : Table := Table.ofRules rule

end Grammar

end ApiSurvey.Java
