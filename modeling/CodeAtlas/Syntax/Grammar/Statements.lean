import CodeAtlas.Syntax.Grammar.Classes
import CodeAtlas.Syntax.Grammar.Types

/-!
# Statements and declarations

The rules of statements. A word that may also be a name begins a declaration only if no
statement ends after it.
-/
namespace CodeAtlas.Syntax.Grammar

/-- A word that may be a name, where the statement goes on after it. -/
def leadWord (text : String) : R := word text >> unended .statement

/-- A condition in brackets. -/
def condition : R :=
  node .parenthesizedExpression (mark "(" >> ref (.sequence .closed) >> mark ")")

/-- A variable with its value. -/
def declarator (language : Language) (follow : Follow) : R :=
  let bound : R := field .name (ref .destructuring <|> bindingName)
  if language.typed then
    anyOf
      [node .variableDeclarator
          (field .name bindingName >> mark "!" >> typed { follow with operators := false }),
        node .variableDeclarator (bound >> opt (typed .closed) >> initializer follow),
        node .variableDeclarator
          (bound >> opt (typed { follow with operators := false }))]
  else node .variableDeclarator (bound >> opt (initializer follow))

/-- The words that declare a variable, with the kind of declaration each makes. -/
def variableDeclaration (language : Language) (follow : Follow) (ending : R) : R :=
  let declarators : R := commaList (declarator language follow)
  let lead (text : String) : R := if follow.semicolon then leadWord text else word text
  let disposing : List R := if language.typed then [] else
    [node .usingDeclaration
      ((lead "using" <|> (word "await" >> lead "using")) >> declarators >> ending)]
  anyOf
    ([node .variableDeclaration (word "var" >> declarators >> ending),
      node .lexicalDeclaration
        ((lead "let" <|> (word "const" >> absent (word "enum"))) >> declarators >> ending)] ++
      disposing)

/-- A function or generator that is declared. -/
def functionDeclaration : R :=
  let head : R := opt (leadWord "async") >> word "function"
  let tail : R := field .name bindingName >> ref (.callSignature .signed) >>
    field .body (ref .block) >> optionalSemicolon
  node .generatorFunctionDeclaration (head >> mark "*" >> tail) <|>
    node .functionDeclaration (head >> tail)

/-- A class that is declared. -/
def classDeclaration (language : Language) : R :=
  node .classDeclaration
    (decorators >> word "class" >> className language >> classTail language >> optionalSemicolon)

/-- A name with the names of the modules around it. -/
def qualifiedName : R :=
  grow (name .identifier .bindings)
    (onto .nestedIdentifier (operator "." >> name .propertyIdentifier .nothing))

/-- The declarations that only typed sources have. -/
def typedDeclarations (language : Language) : List R :=
  let moduleRest (label : R) : R := label >> opt (field .body (ref .block))
  let typeName : R := field .name (name .typeIdentifier .nothing)
  let extended : R := node .extendsTypeClause
    (word "extends" >> commaList (ref .typePrimary))
  let enumMember : R :=
    node .enumAssignment (ref .propertyName >> initializer .closed) <|> ref .propertyName
  [node .functionSignature
      (opt (leadWord "async") >> word "function" >> field .name bindingName >>
        ref (.callSignature .signed) >> semicolon .signed),
    node .abstractClassDeclaration
      (decorators >> word "abstract" >> word "class" >> className language >> classTail language),
    node .module (leadWord "module" >> moduleRest (token .string <|> qualifiedName)),
    node .internalModule (leadWord "namespace" >> moduleRest (token .string <|> qualifiedName)),
    node .typeAliasDeclaration
      (leadWord "type" >> typeName >> opt (ref .typeParameters) >> mark "=" >>
        ref (.type .declaration) >> semicolon .declaration),
    node .enumDeclaration
      (opt (word "const") >> word "enum" >> field .name (name .identifier .nothing) >>
        node .enumBody
          (mark "\x7b" >> opt (trailingCommaList enumMember) >> mark "\x7d")),
    node .interfaceDeclaration
      (word "interface" >> typeName >> opt (ref .typeParameters) >> opt extended >>
        objectTypeBody .interfaceBody),
    node .importAlias
      (word "import" >> name .identifier .nothing >> mark "=" >>
        absent (word "require" >> mark "(") >> qualifiedName >> semicolon .declaration),
    node .ambientDeclaration
      (leadWord "declare" >>
        ((word "global" >> ref .block) <|>
          (word "module" >> mark "." >> name .propertyIdentifier .nothing >> mark ":" >>
            ref (.type .declaration) >> semicolon .declaration) <|>
          ref .declaration))]

/-- A declaration. -/
def declarationRule (language : Language) : R :=
  anyOf
    ([functionDeclaration, classDeclaration language,
      variableDeclaration language .statement (semicolon .statement)] ++
      if language.typed then typedDeclarations language else [])

/-- The module that names come from. -/
def fromClause : R := word "from" >> token .string

/-- A name that a module exports. -/
def exportedName : R := name .identifier .nothing <|> token .string

/-- Attributes of an import. -/
def importAttributes : R := opt (node .importAttribute (word "with" >> ref .object))

/-- A word for types before a name in a clause. -/
def typeOnly (language : Language) : R :=
  if language.typed then
    opt ((word "type" <|> word "typeof") >>
      ahead ((absent (word "as" >> absent (word "as")) >>
        name .identifier .nothing) <|> mark "\x7b" <|> mark "*"))
  else done

/-- The names that a clause exports. -/
def exportClause (language : Language) : R :=
  let specifier : R := node .exportSpecifier
    (typeOnly language >> exportedName >> opt (word "as" >> exportedName))
  node .exportClause (mark "\x7b" >> opt (trailingCommaList specifier) >> mark "\x7d")

/-- An export. -/
def exportStatement (language : Language) : R :=
  let ending : R := semicolon .declaration
  let reexport : R := word "export" >>
    anyOf
      [mark "*" >> fromClause,
        node .namespaceExport (mark "*" >> word "as" >> exportedName) >> fromClause,
        exportClause language >> fromClause,
        exportClause language] >> importAttributes >> ending
  let declared : R := decorators >> word "export" >>
    anyOf
      [word "default" >> field .declaration (ref .declaration),
        word "default" >> field .value (ref (.expression .statement)) >>
          semicolon .statement,
        field .declaration (ref .declaration)]
  let typedForms : List R := if language.typed then
      [word "export" >> word "type" >> exportClause language >> opt fromClause >> ending,
        word "export" >> word "import" >> name .identifier .nothing >> mark "=" >>
          qualifiedName >> ending,
        word "export" >> mark "=" >> ref (.expression .statement) >> semicolon .statement,
        word "export" >> word "as" >> word "namespace" >> name .identifier .nothing >> ending]
    else []
  node .exportStatement (anyOf ([reexport, declared] ++ typedForms))

/-- An import. -/
def importStatement (language : Language) : R :=
  let bound : R := name .identifier .bindings
  let specifier : R := node .importSpecifier
    (typeOnly language >>
      ((exportedName >> word "as" >> bound) <|> bound))
  let named : R := node .namedImports
    (mark "\x7b" >> opt (trailingCommaList specifier) >> mark "\x7d")
  let whole : R := node .namespaceImport (mark "*" >> word "as" >> bound)
  let clause : R := node .importClause
    (anyOf [whole, named, bound >> opt (mark "," >> (whole <|> named))])
  let body : R := (clause >> fromClause) <|> token .string
  let required : R := node .importRequireClause
    (bound >> mark "=" >> word "require" >> mark "(" >> token .string >> mark ")")
  let ending : R := importAttributes >> semicolon .declaration
  if language.typed then
    node .importStatement (word "import" >>
      anyOf [(word "type" <|> word "typeof") >> ((clause >> fromClause) <|> required),
        body, required] >> ending)
  else node .importStatement (word "import" >> body >> ending)

/-- The head of a loop over the values or keys of something. -/
def loopHead (language : Language) : R :=
  let bound : R := field .left (ref .destructuring <|> bindingName)
  let declared : List R :=
    [word "var" >> bound >> opt (initializer .header),
      (word "let" <|> word "const") >> bound] ++
    (if language.typed then []
      else [(word "using" <|> (word "await" >> word "using")) >> bound])
  let target : R := field .left
    (anyOf [ref .destructuring,
      only [.identifier, .memberExpression, .subscriptExpression, .parenthesizedExpression,
        .nonNullExpression] (ref (.postfix_ .header))])
  mark "(" >> anyOf (declared ++ [target]) >> (word "in" <|> word "of") >>
    field .right (ref (.sequence .closed)) >> mark ")"

/-- The statements that begin with a word. -/
def controlStatements (language : Language) : List R :=
  let body : R := field .body (ref .statement)
  let block : R := field .body (ref .block)
  let label : R := opt (unended .declaration >> name .statementIdentifier .bindings)
  let cases : R := many (ref .statement)
  let caught : R := field .parameter (ref .destructuring <|> bindingName) >>
    if language.typed then opt (ascription .closed) else done
  let emptyStatement : R := node .emptyStatement (mark ";")
  [node .ifStatement
      (word "if" >> condition >> ref .statement >>
        opt (node .elseClause (word "else" >> ref .statement))),
    node .forInStatement
      (word "for" >> opt (word "await") >> loopHead language >> body),
    node .forStatement
      (word "for" >> mark "(" >>
        anyOf [variableDeclaration language .header (mark ";"),
          ref (.sequence .header) >> mark ";", emptyStatement] >>
        ((ref (.sequence .closed) >> mark ";") <|> emptyStatement) >>
        opt (ref (.sequence .closed)) >> mark ")" >> body),
    node .whileStatement (word "while" >> condition >> body),
    node .doStatement
      (word "do" >> body >> word "while" >> condition >> opt (semicolon .declaration)),
    node .switchStatement
      (word "switch" >> condition >> field .body (node .switchBody
        (mark "\x7b" >> many
          (node .switchCase (word "case" >> ref (.sequence .closed) >> mark ":" >> cases) <|>
            node .switchDefault (word "default" >> mark ":" >> cases)) >>
          mark "\x7d"))),
    node .tryStatement
      (word "try" >> block >>
        opt (node .catchClause
          (word "catch" >> opt (mark "(" >> caught >> mark ")") >> block)) >>
        opt (node .finallyClause (word "finally" >> block))),
    node .withStatement (word "with" >> condition >> body),
    node .breakStatement (word "break" >> label >> semicolon .declaration),
    node .continueStatement (word "continue" >> label >> semicolon .declaration),
    node .debuggerStatement (word "debugger" >> semicolon .declaration),
    node .returnStatement
      (word "return" >> unended .declaration >> ref (.sequence .statement) >>
        semicolon .statement),
    node .returnStatement (word "return" >> semicolon .declaration),
    node .throwStatement
      (word "throw" >> ref (.sequence .statement) >> semicolon .statement),
    node .labeledStatement
      (name .statementIdentifier .statements >> mark ":" >> body)]

/-- The words that begin an expression although no name may be spelt so. -/
def expressionWords : List String :=
  ["function", "class", "import", "new", "this", "super", "true", "false", "null", "typeof", "void",
    "delete"]

/-- A statement. -/
def statementRule (language : Language) : R :=
  let barred : R := anyOf ((Reserved.everywhere.filter (!expressionWords.contains ·)).map word)
  anyOf
    ([ref .block, node .emptyStatement (mark ";"), exportStatement language,
      importStatement language, ref .declaration] ++ controlStatements language ++
      [node .expressionStatement
        (absent barred >> ref (.sequence .statement) >> semicolon .statement)])

/-- Statements in braces. -/
def blockRule : R :=
  node .statementBlock
    (mark "\x7b" >> many (ref .statement) >> mark "\x7d" >> optionalSemicolon)

end CodeAtlas.Syntax.Grammar
