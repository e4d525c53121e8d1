/-!
# Constructs

The constructs of the language. A visible construct is a node of the tree; a hidden one only groups
parts of a rule, and its parts belong to the construct around it. An expression that consists of a
single part is that part.
-/

namespace ApiSurvey.Java

inductive Construct where
  | program
  -- names and types
  | simpleName
  | qualifiedName
  | type
  | unannotatedType
  | annotatedType
  | arrayType
  | primitiveType
  | namedType
  | simpleType
  | typeArguments
  | wildcard
  | dimensions
  | typeParameters
  | typeParameter
  -- annotations
  | modifiers
  | annotationUse
  | annotationArguments
  | elementPair
  | elementValue
  | elementArray
  | positionalExpression
  -- expressions
  | expression
  | operand
  | target
  | fieldAccess
  | arrayAccess
  | primary
  | literal
  | selfReference
  | stringLiteral
  | interpolation
  | classLiteral
  | parenthesized
  | creation
  | arrayCreation
  | invocation
  | methodReference
  | template
  | arguments
  | dimensionExpression
  | inferredParameters
  | switchExpression
  | switchBlock
  | switchGroup
  | switchRule
  | switchLabel
  | typePattern
  | recordPattern
  | guard
  -- statements
  | statement
  | block
  | expressionStatement
  | labeledStatement
  | ifStatement
  | whileStatement
  | doStatement
  | forStatement
  | enhancedForStatement
  | assertStatement
  | jumpStatement
  | returnStatement
  | yieldStatement
  | throwStatement
  | synchronizedStatement
  | tryStatement
  | catchClause
  | catchParameter
  | finallyClause
  | resources
  | resource
  | localVariableDeclaration
  | variableDeclarator
  | arrayInitializer
  -- declarations
  | declaration
  | moduleDeclaration
  | moduleDirective
  | packageDeclaration
  | importDeclaration
  | classDeclaration
  | recordDeclaration
  | interfaceDeclaration
  | annotationTypeDeclaration
  | enumDeclaration
  | superclass
  | superInterfaces
  | extendsInterfaces
  | permits
  | classBody
  | member
  | interfaceBody
  | annotationTypeBody
  | enumBody
  | enumConstant
  | enumBodyDeclarations
  | fieldDeclaration
  | constantDeclaration
  | methodDeclaration
  | constructorDeclaration
  | constructorBody
  | explicitInvocation
  | compactConstructor
  | staticInitializer
  | annotationElement
  | formalParameters
  | formalParameter
  | spreadParameter
  | receiverParameter
  | throwsClause
  deriving DecidableEq, Repr, Inhabited, Hashable

/-- How a construct shows in the tree. -/
inductive Visibility where
  | node
  /-- As its parts, which belong to the construct around it. -/
  | spliced
  /-- As a node unless it has a single part. -/
  | collapsing
  deriving DecidableEq, Repr

namespace Construct

def all : List Construct :=
  (List.range (throwsClause.ctorIdx + 1)).map Construct.ofNat

def visibility : Construct → Visibility
  | .type | .unannotatedType | .simpleType | .elementValue | .operand | .target | .fieldAccess
  | .arrayAccess | .primary | .statement | .declaration | .member => .spliced
  | .expression | .positionalExpression => .collapsing
  | _ => .node

end Construct

/-- The part that a node plays in the construct around it. -/
inductive Part where
  | name
  | type
  | element
  | dimensions
  | parameters
  | body
  | declarator
  | value
  | key
  | arguments
  deriving DecidableEq, Repr, Inhabited

end ApiSurvey.Java
