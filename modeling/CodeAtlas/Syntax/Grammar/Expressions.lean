import CodeAtlas.Syntax.Grammar.Phrase

/-!
# Expressions and patterns

The rules of expressions, from sequences down to literals, and of the patterns that bind names.
A level of binary operators is a number: operators of a higher level bind more tightly.
-/
namespace CodeAtlas.Syntax.Grammar

/-- A binary operator with its level; all but the power operator group to the left. -/
structure Operator where
  /-- How it is written. -/
  text : String
  /-- How tightly it binds. -/
  level : Nat
  /-- The least level of its right operand. -/
  rightLevel : Nat

/-- The binary operators that are written with marks. -/
def binaryOperators : List Operator :=
  [⟨"??", 1, 2⟩, ⟨"||", 2, 3⟩, ⟨"&&", 3, 4⟩, ⟨"|", 4, 5⟩, ⟨"^", 5, 6⟩, ⟨"&", 6, 7⟩,
    ⟨"==", 7, 8⟩, ⟨"===", 7, 8⟩, ⟨"!=", 7, 8⟩, ⟨"!==", 7, 8⟩,
    ⟨"<", 8, 9⟩, ⟨"<=", 8, 9⟩, ⟨">", 8, 9⟩, ⟨">=", 8, 9⟩,
    ⟨"<<", 9, 10⟩, ⟨">>", 9, 10⟩, ⟨">>>", 9, 10⟩,
    ⟨"+", 10, 11⟩, ⟨"-", 10, 11⟩, ⟨"*", 11, 12⟩, ⟨"/", 11, 12⟩, ⟨"%", 11, 12⟩, ⟨"**", 12, 12⟩]

/-- The level of the operators that are words. -/
def wordLevel : Nat := 8

/-- The operators that assign and compute. -/
def augmentedOperators : List String :=
  ["+=", "-=", "*=", "/=", "%=", "^=", "&=", "|=", ">>=", ">>>=", "<<=", "**=", "&&=", "||=", "??="]

/-- What may stand in the way of an assignment's left side. -/
def assignable : List Kind :=
  [.identifier, .memberExpression, .subscriptExpression, .parenthesizedExpression,
    .nonNullExpression, .undefined]

/-- Expressions with commas between them. -/
def sequenceRule (follow : Follow) : R :=
  grow (ref (.expression follow))
    (onto .sequenceExpression (mark "," >> ref (.expression follow)))

/-- An expression without a comma. -/
def expressionRule (follow : Follow) : R :=
  let tail (inner : Follow) : R :=
    onto .ternaryExpression
      (token .ternary >> ref (.expression inner) >> mark ":" >>
        ref (.expression follow))
  grow (ref (.binary follow 0))
    (unended follow >> (tail .closed <|> tail { Follow.closed with resultTypes := false }))

/-- Binary operators of a level and above. -/
def binaryRule (language : Language) (follow : Follow) (level : Nat) : R :=
  let marks := (binaryOperators.filter (level ≤ ·.level)).map fun entry =>
    onto .binaryExpression
      (operator entry.text >> ref (.binary follow entry.rightLevel))
  let wordOperator (text : String) : R :=
    onto .binaryExpression (word text >> ref (.binary follow (wordLevel + 1)))
  let words := if wordLevel < level then [] else
    [wordOperator "instanceof"] ++ (if follow.inWord then [wordOperator "in"] else []) ++
      if language.typed then
        [onto .asExpression (word "as" >> ((word "const" >> absent (mark "." <|> mark "<" ))
            <|> ref (.type follow))),
          onto .satisfiesExpression (word "satisfies" >> ref (.type follow))]
      else []
  grow (ref (.operand follow)) (unended follow >> anyOf (marks ++ words))

/-- What stands before the body of an arrow function, with the arrow. -/
def arrowHeadRule (language : Language) (follow : Follow) : R :=
  let single : R := field .parameter (name .identifier .expressions)
  let signature : R :=
    if follow.resultTypes || !language.typed then ref (.callSignature .closed)
    else opt (ref .typeParameters) >> field .parameters (ref .formalParameters)
  ((word "async" >> unended follow >> (single <|> signature)) <|> single <|> signature) >>
    operator "=>"

/-- An arrow function whose body is a block, with what is done to it. -/
def arrowBlockRule (follow : Follow) : R :=
  node .arrowFunction (ref (.arrowHead follow) >> field .body (ref .block))

/-- An arrow function whose body is an expression. -/
def arrowRule (follow : Follow) : R :=
  node .arrowFunction
    (ref (.arrowHead follow) >> field .body (ref (.expression follow)))

/-- An assignment. -/
def assignmentRule (language : Language) (follow : Follow) : R :=
  let right : R := field .right (ref (.expression follow))
  let left : R := field .left
    (((ref .destructuring) >> ahead (operator "=")) <|>
      only assignable (ref (.postfix_ follow)))
  let using_ : R := if language.typed then
      opt (word "using" >> unended follow >> ahead (name .identifier .nothing)) else done
  (node .assignmentExpression (using_ >> left >> operator "=" >> right)) <|>
    node .assignmentExpression (left >> operator "=" >> right) <|>
    node .augmentedAssignmentExpression
      (field .left (only assignable (ref (.postfix_ follow))) >>
        anyOf (augmentedOperators.map operator) >> right)

/-- An operand of binary operators. -/
def operandRule (language : Language) (follow : Follow) : R :=
  let unary (op : R) : R := node .unaryExpression (op >> ref (.operand follow))
  anyOf <|
    [ref (.arrowBlock follow), arrowRule follow,
      node .yieldExpression (word "yield" >>
        ((mark "*" >> ref (.expression follow)) <|>
          opt (unended follow >> ref (.expression follow)))),
      assignmentRule language follow] ++
    (["!", "~"].map fun text => unary (mark text)) ++
    (["++", "--"].map fun text =>
      node .updateExpression (operator text >> ref (.operand follow))) ++
    (["-", "+"].map fun text => unary (operator text)) ++
    (["typeof", "void", "delete"].map fun text => unary (word text)) ++
    [node .awaitExpression (word "await" >> ref (.operand follow))] ++
    (if language = .typescript then
      [node .typeAssertion (ref .typeArguments >> ref (.operand follow))] else []) ++
    [ref (.postfix_ follow)] ++
    (if language.typed then [] else [token .privateName])

/-- What may come after a function with type arguments that is not called. -/
def endsInstantiation : R :=
  anyOf [token .lineBreak, mark ")", mark "]", mark "\x7d", mark ",", mark ";", mark ":",
    token .endOfSource]

/-- Selections, calls and marks after an operand. -/
def suffixes (language : Language) : List R :=
  let dot : R := operator "." <|> operator "?."
  let selected : R := field .property
    (token .privateName <|> name .propertyIdentifier .nothing)
  [onto .memberExpression (dot >> selected),
    onto .subscriptExpression
      (opt (operator "?.") >> mark "[" >> ref (.sequence .closed) >> mark "]"),
    onto .callExpression (opt (operator "?.") >> ref .arguments),
    onto .callExpression (ref .templateString)] ++
  if language.typed then
    [onto .callExpression
        (opt (operator "?.") >> ahead (operator "<") >> ref .typeArguments >>
          (ref .arguments <|> ref .templateString)),
      onto .nonNullExpression (operator "!"),
      onto .instantiationExpression
        (ahead (operator "<") >> ref .typeArguments >> ahead endsInstantiation)]
  else []

/-- A primary expression with what is done to it. -/
def postfixRule (language : Language) (follow : Follow) : R :=
  grow (ref .primary)
    (unended follow >> anyOf (suffixes language ++
      [onto .updateExpression (operator "++" <|> operator "--")]))

/-- A block-bodied arrow function with what is done to it. -/
def arrowChainRule (language : Language) (follow : Follow) : R :=
  grow (arrowBlockRule follow) (unended follow >> anyOf (suffixes language))

/-- What is constructed by `new`: a primary expression with selections. -/
def constructedRule : R :=
  let dot : R := operator "."
  let selected : R := field .property
    (token .privateName <|> name .propertyIdentifier .nothing)
  grow (ref .primary)
    (onto .memberExpression (dot >> selected) <|>
      onto .subscriptExpression (mark "[" >> ref (.sequence .closed) >> mark "]"))

/-- An element of a list of arguments or of an array. -/
def element : R :=
  node .spreadElement (mark "..." >> ref (.expression .closed)) <|>
    ref (.expression .closed)

/-- Arguments of a call. -/
def argumentsRule : R := node .arguments (mark "(" >> sparseList element >> mark ")")

/-- A template. -/
def templateStringRule : R :=
  node .templateString
    (mark "`" >> many (anyOf [token .templateChars, token .templateEscape,
      node .templateSubstitution (mark "$\x7b" >> ref (.sequence .closed) >> mark "\x7d")]) >>
      mark "`")

/-- A member of an object. -/
def objectMember : R :=
  anyOf
    [node .spreadElement (mark "..." >> ref (.expression .closed)),
      node .pair (ref .propertyName >> mark ":" >>
        field .value (ref (.expression .closed))),
      ref .objectMethod,
      name .shorthandPropertyIdentifier .bindings]

/-- An object. -/
def objectRule : R := node .object (mark "\x7b" >> sparseList objectMember >> mark "\x7d")

/-- What one value can be bound or assigned to. -/
def target : R :=
  anyOf
    [ref .destructuring,
      only [.memberExpression, .subscriptExpression, .nonNullExpression]
        (ref (.postfix_ .closed)),
      node .undefined (word "undefined"),
      name .identifier .expressions]

/-- What the values that are left can be bound or assigned to. -/
def restPattern : R := node .restPattern (mark "..." >> target)

/-- A member of an object pattern. -/
def patternMember : R :=
  let defaulted (left : R) : R := field .left left >> mark "=" >>
    field .right (ref (.expression .closed))
  anyOf
    [node .pairPattern (ref .propertyName >> mark ":" >>
        (node .assignmentPattern (defaulted (ref .pattern)) <|> ref .pattern)),
      restPattern,
      node .objectAssignmentPattern (defaulted
        (name .shorthandPropertyIdentifierPattern .bindings <|> ref .destructuring)),
      name .shorthandPropertyIdentifierPattern .bindings]

/-- A pattern that takes a value apart. -/
def destructuringRule : R :=
  let item : R :=
    node .assignmentPattern (field .left (ref .pattern) >> mark "=" >>
      field .right (ref (.expression .closed))) <|> ref .pattern
  node .objectPattern (mark "\x7b" >> sparseList patternMember >> mark "\x7d") <|>
    node .arrayPattern (mark "[" >> sparseList item >> mark "]")

/-- A pattern: what a value can be bound or assigned to. -/
def patternRule : R := restPattern <|> target

/-- A function or generator in an expression. -/
def functionRule : R :=
  let head : R := opt (word "async" >> unended .declaration) >> word "function"
  let tail : R := opt (field .name bindingName) >> ref (.callSignature .closed) >>
    field .body (ref .block)
  node .generatorFunction (head >> mark "*" >> tail) <|> node .functionExpression (head >> tail)

/-- A literal, a name, or an expression in brackets. -/
def primaryRule (language : Language) : R :=
  let parenthesized : R :=
    if language.typed then
      node .parenthesizedExpression (mark "(" >>
        ((ref (.expression .closed) >>
            field .type (node .typeAscription (mark ":" >> ref (.type .closed))) >>
            mark ")")
          <|> (ref (.sequence .closed) >> mark ")")))
    else node .parenthesizedExpression (mark "(" >> ref (.sequence .closed) >> mark ")")
  let keyword (text : String) (kind : Kind) : R := node kind (word text)
  anyOf <|
    [token .number, token .string, ref .templateString, token .regex, parenthesized,
      node .array (mark "[" >> sparseList element >> mark "]"), ref .object, ref .function,
      ref .classExpression,
      node .metaProperty (word "new" >> mark "." >> word "target"),
      node .newExpression (word "new" >> ref .constructed >>
        opt (if language.typed then ref .typeArguments >> ref .arguments
          else ref .arguments)),
      node .newExpression (word "new" >> ref .constructed >> opt (ref .arguments)),
      node .metaProperty (word "import" >> mark "." >> word "meta"),
      node .importCallee (word "import" >> ahead (mark "(" <|> mark ".")),
      keyword "this" .this, keyword "super" .super, keyword "true" .true, keyword "false" .false,
      keyword "null" .null, keyword "undefined" .undefined,
      name .identifier .expressions] ++
    (if language.markup then [ref .element] else [])

end CodeAtlas.Syntax.Grammar
