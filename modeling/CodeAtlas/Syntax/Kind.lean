/-!
# Kinds of syntax nodes

Every node of a concrete syntax tree has a kind. Constructs, names and literals are *named*;
punctuation, keywords and operators are not, although they are nodes of the tree like any other.
A node may also stand in a named place of its parent, its `Field`.
-/
namespace CodeAtlas.Syntax

/-- What a node of a syntax tree is. -/
inductive Kind where
  /-- A keyword, an operator or a punctuation mark, by its spelling. -/
  | symbol (text : String)
  /-- The zero-width end of a statement without a written semicolon; never in a finished tree. -/
  | insertedSemicolon
  /-- A stretch of source that fits no rule. -/
  | error
  /-- A token that the source lacks. -/
  | missing
  | comment
  | htmlComment
  | hashBangLine
  | program
  -- names and literals
  | identifier
  | propertyIdentifier
  | privatePropertyIdentifier
  | shorthandPropertyIdentifier
  | shorthandPropertyIdentifierPattern
  | statementIdentifier
  | typeIdentifier
  | nestedIdentifier
  | number
  | string
  | stringFragment
  | escapeSequence
  | templateString
  | templateSubstitution
  | regex
  | this
  | super
  | true
  | false
  | null
  | undefined
  -- statements
  | exportStatement
  | exportClause
  | exportSpecifier
  | namespaceExport
  | importStatement
  | importClause
  | importSpecifier
  | importAttribute
  | importRequireClause
  | importAlias
  | namedImports
  | namespaceImport
  | expressionStatement
  | variableDeclaration
  | lexicalDeclaration
  | usingDeclaration
  | variableDeclarator
  | statementBlock
  | ifStatement
  | elseClause
  | switchStatement
  | switchBody
  | switchCase
  | switchDefault
  | forStatement
  | forInStatement
  | whileStatement
  | doStatement
  | tryStatement
  | catchClause
  | finallyClause
  | withStatement
  | breakStatement
  | continueStatement
  | debuggerStatement
  | returnStatement
  | throwStatement
  | emptyStatement
  | labeledStatement
  -- functions and classes
  | functionDeclaration
  | generatorFunctionDeclaration
  | functionSignature
  | functionExpression
  | generatorFunction
  | arrowFunction
  | formalParameters
  | requiredParameter
  | optionalParameter
  | classDeclaration
  | abstractClassDeclaration
  | classExpression
  | classHeritage
  | extendsClause
  | implementsClause
  | classBody
  | classStaticBlock
  | methodDefinition
  | methodSignature
  | abstractMethodSignature
  | fieldDefinition
  | publicFieldDefinition
  | computedPropertyName
  | accessibilityModifier
  | overrideModifier
  | decorator
  -- expressions
  | parenthesizedExpression
  | sequenceExpression
  | assignmentExpression
  | augmentedAssignmentExpression
  | ternaryExpression
  | binaryExpression
  | unaryExpression
  | updateExpression
  | awaitExpression
  | yieldExpression
  | newExpression
  | callExpression
  | arguments
  | memberExpression
  | subscriptExpression
  | spreadElement
  | metaProperty
  | importCallee
  | object
  | pair
  | array
  | asExpression
  | satisfiesExpression
  | nonNullExpression
  | instantiationExpression
  | typeAssertion
  -- patterns
  | objectPattern
  | arrayPattern
  | assignmentPattern
  | objectAssignmentPattern
  | pairPattern
  | restPattern
  -- embedded elements
  | jsxElement
  | jsxSelfClosingElement
  | jsxOpeningElement
  | jsxClosingElement
  | jsxAttribute
  | jsxExpression
  | jsxText
  | jsxNamespaceName
  | htmlCharacterReference
  -- types
  | typeAscription
  | assertsAscription
  | predicateAscription
  | typePredicate
  | asserts
  | predefinedType
  | nestedTypeIdentifier
  | genericType
  | typeArguments
  | typeParameters
  | typeParameter
  | constraint
  | defaultType
  | unionType
  | intersectionType
  | conditionalType
  | functionType
  | constructorType
  | readonlyType
  | inferType
  | indexTypeQuery
  | typeQuery
  | flowMaybeType
  | existentialType
  | arrayType
  | lookupType
  | parenthesizedType
  | tupleType
  | optionalType
  | restType
  | literalType
  | templateLiteralType
  | templateType
  | thisType
  | objectType
  | propertySignature
  | callSignature
  | constructSignature
  | indexSignature
  | mappedTypeClause
  -- typed declarations
  | typeAliasDeclaration
  | interfaceDeclaration
  | interfaceBody
  | extendsTypeClause
  | enumDeclaration
  | enumBody
  | enumAssignment
  | module
  | internalModule
  | ambientDeclaration
  deriving DecidableEq, Repr, Hashable

/-- Whether nodes of a kind are named. -/
def Kind.isNamed : Kind → Bool
  | .symbol _ | .insertedSemicolon => Bool.false
  | _ => Bool.true

/-- A named place among the children of a node. -/
inductive Field where
  | name
  | property
  | parameters
  | parameter
  | pattern
  | left
  | right
  | value
  | type
  | returnType
  | body
  | declaration
  | decorator
  | member
  deriving DecidableEq, Repr, Hashable

end CodeAtlas.Syntax
