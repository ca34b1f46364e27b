import CodeAtlas.Syntax.Grammar.Phrase

/-!
# Functions' parameters, classes and their members

Typed and untyped sources differ in what a parameter and a member may carry, and in where a
decorator of a method stands: inside the method in untyped sources, before it in typed ones.
-/
namespace CodeAtlas.Syntax.Grammar

/-- A value after an equals sign. -/
def initializer (follow : Follow) : R :=
  mark "=" >> field .value (ref (.expression follow))

/-- A type after a colon. -/
def ascription (follow : Follow) : R :=
  node .typeAscription (mark ":" >> ref (.type follow))

/-- A type after a colon, in the place of a parent's type. -/
def typed (follow : Follow) : R := field .type (ascription follow)

/-- The visibility of a member. -/
def accessibility : R :=
  node .accessibilityModifier (anyOf (["public", "private", "protected"].map modifier))

/-- The mark of a member that replaces an inherited one. -/
def overriding : R := node .overrideModifier (modifier "override")

/-- One decorator. -/
def decoratorRule (language : Language) : R :=
  let chain : R := grow (name .identifier .nothing)
    (onto .memberExpression (operator "." >>
      field .property (name .propertyIdentifier .nothing)))
  let called : R := grow chain
    (onto .callExpression
      ((if language.typed then opt (ref .typeArguments) else done) >> ref .arguments))
  let grouped : R := node .parenthesizedExpression
    (mark "(" >> ref (.expression .closed) >> mark ")")
  node .decorator (mark "@" >> (called <|> grouped))

/-- Any number of decorators in the place of their parent. -/
def decorators : R := many (field .decorator (ref .decorator))

/-- A parameter. -/
def parameter (language : Language) : R :=
  if language.typed then
    let named : R := decorators >>
      opt (node .accessibilityModifier (anyOf (["public", "private", "protected"].map
        fun text => word text >> ahead parameterStart))) >>
      opt (node .overrideModifier (word "override" >> ahead parameterStart)) >>
      opt (word "readonly" >> ahead parameterStart) >>
      field .pattern (node .this (word "this" >> absent (mark "." <|> mark "[")) <|>
        ref .pattern)
    let rest : R := opt (typed .closed) >> opt (initializer .closed)
    node .optionalParameter (named >> mark "?" >> rest) <|>
      node .requiredParameter (named >> rest)
  else
    node .assignmentPattern (field .left (ref .pattern) >> mark "=" >>
      field .right (ref (.expression .closed))) <|> ref .pattern
where
  /-- What a modifier of a parameter stands before. -/
  parameterStart : R := anyOf [name .identifier .nothing, mark "[", mark "\x7b", mark "..."]

/-- The parameters of a function. -/
def formalParametersRule (language : Language) : R :=
  node .formalParameters
    (mark "(" >> opt (trailingCommaList (parameter language)) >> mark ")")

/-- The parameters of a function with the types around them. -/
def callSignatureRule (language : Language) (follow : Follow) : R :=
  let parameters : R := field .parameters (ref .formalParameters)
  if language.typed then
    let subject : R := name .identifier .nothing
    let predicate : R :=
      node .typePredicate ((node .this (word "this") <|> subject) >> word "is" >>
        ref (.type follow))
    let asserted : R := word "asserts" >> ahead (name .identifier .nothing) >>
      (predicate <|> node .this (word "this") <|> subject)
    opt (ref .typeParameters) >> parameters >>
      opt (field .returnType (anyOf
        [node .assertsAscription (mark ":" >> node .asserts asserted),
          node .predicateAscription (mark ":" >> predicate),
          ascription follow]))
  else parameters

/-- The name of a property. -/
def propertyNameRule : R :=
  anyOf [name .propertyIdentifier .nothing, token .privateName, token .string, token .number,
    node .computedPropertyName (mark "[" >> ref (.expression .closed) >> mark "]")]

/-- The name of a member in its place. -/
def memberName : R := field .name (ref .propertyName)

/-- The mark that makes a member an accessor or a generator. -/
def accessorMark : R := anyOf [modifier "get", modifier "set", mark "*"]

/-- A method. In untyped sources its decorators are part of it. -/
def method (language : Language) : R :=
  let tail : R := field .body (ref .block)
  if language.typed then
    node .methodDefinition
      (opt accessibility >> opt (modifier "static") >> opt overriding >>
        opt (modifier "readonly") >> opt (modifier "async") >> opt accessorMark >>
        memberName >> opt (mark "?") >> ref (.callSignature .signed) >> tail)
  else
    let staticGet : R := word "static" >> word "get" >> token .lineBreak
    node .methodDefinition
      (decorators >> opt (staticGet <|> modifier "static") >>
        opt (modifier "async") >> opt accessorMark >>
        memberName >> ref (.callSignature .signed) >> tail)

/-- A block that runs when its class is made. -/
def staticBlock : R :=
  node .classStaticBlock (word "static" >> field .body (ref .block))

/-- A member of a class in an untyped source. -/
def untypedMember (language : Language) : R :=
  let staticGet : R := word "static" >> word "get" >> token .lineBreak
  let defined (ending : R) : R := node .fieldDefinition
    (decorators >> opt (staticGet <|> modifier "static") >>
      field .property (ref .propertyName) >> ending)
  anyOf
    [mark ";", staticBlock, method language >> opt (mark ";"),
      defined (initializer .statement) >> semicolon .statement,
      defined done >> semicolon .declaration]

/-- The end of a signature among members. -/
def signatureEnd : R := semicolon .signed <|> mark ","

/-- A signature of a method. -/
def methodSignature (kind : Kind) (head : R) : R :=
  node kind (head >> opt accessorMark >> memberName >> opt (mark "?") >>
    ref (.callSignature .signed))

/-- A signature of members looked up by key. -/
def indexSignature : R :=
  let sign : R := opt (mark "-" <|> mark "+")
  let key : R := name .identifier .nothing >> mark ":" >> ref (.type .closed)
  let mapped : R := node .mappedTypeClause
    (name .typeIdentifier .nothing >> word "in" >> ref (.type .closed) >>
      opt (word "as" >> ref (.type .closed)))
  let result : R := anyOf
    [ascription .declaration,
      node .typeAscription ((mark "-?:" <|> mark "+?:" <|> mark "?:") >>
        ref (.type .declaration))]
  node .indexSignature
    (opt (sign >> word "readonly") >> mark "[" >> (mapped <|> key) >> mark "]" >>
      field .type result)

/-- A field of a class in a typed source. -/
def typedField (ending : R) : R :=
  let lead : R :=
    (modifier "declare" >> opt accessibility) <|>
      (accessibility >> opt (modifier "declare")) <|> done
  let marks : R := anyOf
    [modifier "abstract" >> opt (modifier "readonly"),
      modifier "readonly" >> modifier "abstract",
      modifier "accessor",
      opt (modifier "static") >> opt overriding >> opt (modifier "readonly")]
  node .publicFieldDefinition
    (decorators >> lead >> marks >> memberName >> opt (mark "?" <|> mark "!") >> ending)

/-- A member of a class in a typed source. -/
def typedMember (language : Language) : R :=
  let signatureHead : R :=
    opt accessibility >> opt (modifier "static") >> opt overriding >>
      opt (modifier "readonly") >> opt (modifier "async")
  let abstractHead : R := opt accessibility >> modifier "abstract" >> opt overriding
  let ending (follow : Follow) : R := semicolon follow <|> mark ","
  anyOf
    [mark ";", staticBlock, method language >> opt (semicolon .statement),
      methodSignature .methodSignature signatureHead >> signatureEnd,
      methodSignature .abstractMethodSignature abstractHead >> signatureEnd,
      indexSignature >> ending .declaration,
      typedField (opt (typed .closed) >> initializer .statement) >> ending .statement,
      typedField (opt (typed .declaration)) >> ending .declaration,
      ref .decorator]

/-- The body of a class. -/
def classBodyRule (language : Language) : R :=
  node .classBody
    (mark "\x7b" >>
      many (if language.typed then typedMember language else untypedMember language) >>
      mark "\x7d")

/-- What a class extends and implements. -/
def heritage (language : Language) : R :=
  if language.typed then
    let extended : R := node .extendsClause (word "extends" >> commaList
      ((field .value (ref (.postfix_ .closed)) >> ref .typeArguments) <|>
        field .value (ref (.expression .closed))))
    let implemented : R :=
      node .implementsClause (word "implements" >> commaList (ref (.type .closed)))
    node .classHeritage ((extended >> opt implemented) <|> implemented)
  else node .classHeritage (word "extends" >> ref (.expression .closed))

/-- The name of a class where it is declared. -/
def className (language : Language) : R :=
  field .name (if language.typed then
    absent (word "extends" <|> word "implements") >> name .typeIdentifier .bindings
    else name .identifier .bindings)

/-- What comes after the name of a class. -/
def classTail (language : Language) : R :=
  (if language.typed then opt (ref .typeParameters) else done) >>
    opt (heritage language) >> field .body (ref .classBody)

/-- A class in an expression. -/
def classExpressionRule (language : Language) : R :=
  node .classExpression
    (decorators >> word "class" >> opt (className language) >> classTail language)

end CodeAtlas.Syntax.Grammar
