import CodeAtlas.Syntax.Grammar.Classes

/-!
# Types

The rules of types: unions and conditions on top, then operators on types, then names, literals
and brackets. A type may be the end of a statement, so it carries what may follow it.
-/
namespace CodeAtlas.Syntax.Grammar

/-- A type. -/
def typeRule (follow : Follow) : R :=
  grow (ref (.typeUnion follow))
    (unended follow >> onto .conditionalType
      (word "extends" >> ref (.typeUnion .closed) >> mark "?" >> ref (.type .closed) >>
        mark ":" >> ref (.type follow)))

/-- Types joined by bars and ampersands. -/
def typeUnionRule (follow : Follow) : R :=
  let join (kind : Kind) (text : String) : R :=
    onto kind (operator text >> ref (.typeOperand follow))
  grow (ref (.typeOperand follow))
    (unended follow >> (join .unionType "|" <|> join .intersectionType "&"))

/-- The words that name built-in types. -/
def predefinedTypes : List String :=
  ["any", "number", "boolean", "string", "symbol", "void", "unknown", "never", "object"]

/-- What a query for the type of a value asks about. -/
def queried : R :=
  let selected : R := token .privateName <|> name .propertyIdentifier .nothing
  let builtIn : R := node .predefinedType (anyOf (predefinedTypes.map word))
  grow (anyOf
      [node .importCallee (word "import" >> ahead (mark "(")),
        node .this (word "this"), name .identifier .nothing])
    (anyOf
      [onto .memberExpression ((operator "." <|> operator "?.") >> selected),
        onto .subscriptExpression
          (mark "[" >> anyOf [token .number, token .string, builtIn] >> mark "]"),
        onto .callExpression (ref .arguments),
        onto .instantiationExpression (ref .typeArguments)])

/-- An operand of bars and ampersands. -/
def typeOperandRule (follow : Follow) : R :=
  let subject : R := name .identifier .nothing
  let predicate : R :=
    node .typePredicate ((node .this (word "this") <|> subject) >> word "is" >>
      ref (.type follow))
  let asserted : R :=
    node .asserts (word "asserts" >> ahead (name .identifier .nothing) >>
      (predicate <|> node .this (word "this") <|> subject))
  anyOf
    [node .functionType (opt (ref .typeParameters) >>
        field .parameters (ref .formalParameters) >> operator "=>" >>
        field .returnType (anyOf [asserted, predicate, ref (.type follow)])),
      node .constructorType (opt (word "abstract") >> word "new" >>
        opt (ref .typeParameters) >> ref .formalParameters >> operator "=>" >>
        ref (.type follow)),
      node .readonlyType (word "readonly" >> ref (.typeOperand follow)),
      node .inferType (word "infer" >> name .typeIdentifier .nothing >>
        opt (word "extends" >> ref (.type .closed))),
      node .indexTypeQuery (word "keyof" >> ref (.typeOperand follow)),
      node .typeQuery (word "typeof" >> queried),
      node .predefinedType (word "unique" >> word "symbol"),
      node .unionType (operator "|" >> ref (.typeOperand follow)),
      node .intersectionType (operator "&" >> ref (.typeOperand follow)),
      node .flowMaybeType (mark "?" >> ref (.typeOperand follow)),
      ref (.typePostfix follow)]

/-- A primary type with brackets after it. -/
def typePostfixRule (follow : Follow) : R :=
  grow (ref .typePrimary)
    (unended follow >>
      (onto .arrayType (mark "[" >> mark "]") <|>
        onto .lookupType (mark "[" >> ref (.type .closed) >> mark "]")))

/-- A member of a tuple type. -/
def tupleMember : R :=
  anyOf
    [node .optionalParameter (name .identifier .nothing >> mark "?" >> ascription .closed),
      node .requiredParameter
        ((node .restPattern (mark "..." >> name .identifier .nothing) <|>
          name .identifier .nothing) >> ascription .closed),
      node .restType (mark "..." >> ref (.type .closed)),
      grow (ref (.type .closed)) (onto .optionalType (mark "?"))]

/-- A name, a literal or a bracketed type. -/
def typePrimaryRule : R :=
  let qualified : R :=
    grow (name .typeIdentifier .types)
      (onto .nestedTypeIdentifier (operator "." >> name .typeIdentifier .nothing))
  let imported : R :=
    grow (node .importCallee (word "import" >> ahead (mark "(")))
      (onto .callExpression (ref .arguments) <|>
        onto .memberExpression (operator "." >> name .propertyIdentifier .nothing))
  let generic : R := grow qualified (onto .genericType (ref .typeArguments))
  let keyword (text : String) : R := node .literalType (word text)
  anyOf
    ([node .parenthesizedType (mark "(" >> ref (.type .closed) >> mark ")"),
      node .tupleType (mark "[" >> opt (trailingCommaList tupleMember) >> mark "]"),
      ref .objectType,
      node .templateLiteralType (mark "`" >> many (token .templateChars <|>
        node .templateType (mark "$\x7b" >> ref (.type .closed) >> mark "\x7d")) >>
        mark "`"),
      node .literalType (token .string), node .literalType (token .number),
      node .literalType (node .unaryExpression ((mark "-" <|> mark "+") >> token .number)),
      node .existentialType (mark "*"),
      only [.callExpression, .memberExpression] imported,
      node .thisType (word "this")] ++
    ["true", "false", "null", "undefined"].map keyword ++
    [node .predefinedType (word "void"), generic])

/-- A member of an object type. -/
def objectTypeMember : R :=
  let head : R :=
    opt accessibility >> opt (modifier "static") >> opt overriding >>
      opt (modifier "readonly")
  anyOf
    [node .constructSignature (opt (word "abstract") >> word "new" >>
        opt (ref .typeParameters) >> ref .formalParameters >>
        opt (ascription .declaration)),
      node .callSignature (ref (.callSignature .declaration)),
      indexSignature,
      node .methodSignature (head >> opt (modifier "async") >> opt accessorMark >>
        memberName >> opt (mark "?") >> ref (.callSignature .declaration)),
      node .propertySignature (head >> memberName >> opt (mark "?") >>
        opt (typed .declaration))]

/-- The type of an object. -/
def objectTypeBody (kind : Kind) : R :=
  let separator : R := mark "," <|> semicolon .declaration
  node kind
    (mark "\x7b" >> opt (mark "," <|> mark ";") >>
      opt (objectTypeMember >> many (separator >> objectTypeMember) >>
        opt separator) >>
      mark "\x7d")

/-- Types in angle brackets. -/
def typeArgumentsRule : R :=
  node .typeArguments (mark "<" >> trailingCommaList (ref (.type .closed)) >> mark ">")

/-- Names of types in angle brackets. -/
def typeParametersRule : R :=
  let one : R := node .typeParameter
    (opt (word "const" >> ahead (name .identifier .nothing)) >>
      name .typeIdentifier .nothing >>
      opt (node .constraint ((word "extends" <|> mark ":") >> ref (.type .closed))) >>
      opt (node .defaultType (mark "=" >> ref (.type .closed))))
  node .typeParameters (mark "<" >> trailingCommaList one >> mark ">")

end CodeAtlas.Syntax.Grammar
