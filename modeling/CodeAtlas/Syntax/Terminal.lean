import CodeAtlas.Syntax.Kind
import CodeAtlas.Syntax.Semicolon

/-!
# Terminals

A terminal of the grammar is a class of tokens together with the kind of node it becomes. Most
terminals first skip the gap before them: blanks, which vanish, and comments, which are kept as
trivia of the token. `Terminal.read` is the only place where the grammar meets the source.
-/
namespace CodeAtlas.Syntax

/-- A comment before a token. -/
structure Trivia where
  /-- Which comment it is. -/
  kind : Kind
  /-- Its extent. -/
  span : Span
  deriving Repr

/-- The words that are not read as names in a place. -/
inductive Reserved where
  /-- No word is reserved, as in the name of a property. -/
  | nothing
  /-- The words that no binding may have. -/
  | bindings
  /-- The words that begin something else where an expression may stand. -/
  | expressions
  /-- The words that begin something else where a statement may stand. -/
  | statements
  /-- The words that begin something else where a type may stand. -/
  | types
  deriving DecidableEq, Repr

namespace Reserved

/-- The words that are never names in an untyped source. -/
def everywhere : List String :=
  ["break", "case", "catch", "class", "const", "continue", "debugger", "default", "delete", "do",
    "else", "extends", "false", "finally", "for", "function", "if", "import", "in", "instanceof",
    "new", "null", "return", "super", "switch", "this", "throw", "true", "try", "typeof", "var",
    "void", "while", "with"]

/-- The words that begin an expression. -/
def beginExpression : List String :=
  ["function", "class", "this", "super", "true", "false", "null", "undefined", "typeof", "void",
    "delete", "import", "await", "yield"]

/-- The words that begin a type or an operator on types. -/
def beginType : List String :=
  ["typeof", "keyof", "new", "true", "false", "null", "undefined", "void", "this", "import",
    "function", "infer", "readonly"]

/-- Whether a word is reserved. -/
def has (language : Language) : Reserved → String → Bool
  | .nothing, _ => false
  | .bindings, word => !language.typed && everywhere.contains word
  | .expressions, word =>
    beginExpression.contains word || (!language.typed && everywhere.contains word)
  | .statements, word => everywhere.contains word
  | .types, word => beginType.contains word

end Reserved

/-- A class of tokens. -/
inductive Terminal where
  /-- The given marks, whatever follows them. -/
  | mark (text : String)
  /-- The given operator, unless a longer one stands there. -/
  | operator (text : String)
  /-- The given word. -/
  | word (text : String)
  /-- A name that is no reserved word. -/
  | name (kind : Kind) (reserved : Reserved)
  /-- A private name. -/
  | privateName
  /-- A number. -/
  | number
  /-- A quoted string. -/
  | string
  /-- A regular expression. -/
  | regex
  /-- The characters of a template up to its next mark, directly here. -/
  | templateChars
  /-- An escape in a template, directly here. -/
  | templateEscape
  /-- The mark of a conditional expression. -/
  | ternary
  /-- A semicolon that is not written. -/
  | insertedSemicolon (follow : Follow)
  /-- The text of an element, directly here. -/
  | elementText
  /-- An entity in the text of an element. -/
  | entity
  /-- A name of an element or attribute, as a node of the kind. -/
  | elementName (kind : Kind)
  /-- A quoted attribute. -/
  | elementString
  /-- The first line of a script. -/
  | hashBangLine
  /-- A line break after any spaces, which is not consumed. -/
  | lineBreak
  /-- The end of the source. -/
  | endOfSource
  deriving Repr

namespace Terminal

/-- Skip blanks and comments, collecting the comments; angle-bracket comments on request. The
glyphs that are left bound the number of comments. -/
def gap (html : Bool) : List Glyph → Cursor → List Trivia → List Trivia × Cursor
  | [], cursor, found => (found.reverse, cursor)
  | _ :: bound, cursor, found =>
    let cursor := Lexeme.run cursor isBlank
    match Lexeme.comment cursor with
    | some last => gap html bound last (⟨.comment, cursor.spanTo last⟩ :: found)
    | none =>
      match if html then Lexeme.htmlComment cursor else none with
      | some last => gap html bound last (⟨.htmlComment, cursor.spanTo last⟩ :: found)
      | none => (found.reverse, cursor)

/-- The gap before a token that begins an operand or a statement. -/
def openGap (cursor : Cursor) : List Trivia × Cursor :=
  gap true cursor.rest cursor []

/-- The gap before a token that goes on with an operand. -/
def closeGap (cursor : Cursor) : List Trivia × Cursor :=
  gap false cursor.rest cursor []

/-- Where a semicolon is inserted, with the comments before it. Each comment that does not end
the statement is passed over; the glyphs that are left bound their number. -/
def semicolonPlace (language : Language) (follow : Follow) (bound : List Glyph) (cursor : Cursor)
    (found : List Trivia) : Option (List Trivia × Cursor) :=
  if Semicolon.inserted language follow cursor then some (found.reverse, cursor)
  else
    let first := Lexeme.run cursor isBlank
    match bound, Lexeme.comment first with
    | _ :: bound, some last =>
      semicolonPlace language follow bound last (⟨.comment, first.spanTo last⟩ :: found)
    | _, _ => none

/-- Whether a question mark at a place begins a conditional expression. -/
def isTernary (language : Language) (cursor : Cursor) : Bool :=
  cursor.at? '?' && !cursor.next.at? '?' &&
    (let next := Lexeme.run cursor.next isSpace
     let closes := Lexeme.startsWith next fun char => [':', ')', ','].contains char
     if language.typed && closes then false
     else if next.at? '.' then Lexeme.startsWith next.next isDigit
     else true)

/-- A recognized token: its kind, the comments before it, and the places around it. -/
structure Token where
  /-- The kind of node it becomes. -/
  kind : Kind
  /-- The comments before it. -/
  trivia : List Trivia
  /-- Where it begins. -/
  first : Cursor
  /-- Where it ends. -/
  last : Cursor

/-- Read a token of a spelling after a gap. -/
def afterGap (gap : List Trivia × Cursor) (kind : Kind) (lexeme : Lexeme) :
    Except Cursor Token :=
  match lexeme gap.2 with
  | some last => .ok ⟨kind, gap.1, gap.2, last⟩
  | none => .error gap.2

/-- The given name and nothing longer. -/
def exactName (accept : String → Bool) : Lexeme := fun cursor =>
  match Lexeme.name cursor with
  | some last => if accept (String.ofList (cursor.textTo last)) then some last else none
  | none => none

/-- The given operator and nothing longer. -/
def exactOperator (text : String) : Lexeme := fun cursor =>
  match Lexeme.operator? cursor with
  | some (found, last) => if found == text then some last else none
  | none => none

/-- Read a token of a terminal, or tell where one was looked for. -/
def read (language : Language) (terminal : Terminal) (cursor : Cursor) : Except Cursor Token :=
  match terminal with
  | .mark text => afterGap (openGap cursor) (.symbol text) (Lexeme.literal text)
  | .operator text => afterGap (closeGap cursor) (.symbol text) (exactOperator text)
  | .word text => afterGap (openGap cursor) (.symbol text) (exactName (· == text))
  | .name kind reserved =>
    afterGap (openGap cursor) kind (exactName fun word => !reserved.has language word)
  | .privateName => afterGap (openGap cursor) .privatePropertyIdentifier Lexeme.privateName
  | .number => afterGap (openGap cursor) .number Lexeme.number
  | .string => afterGap (openGap cursor) .string Lexeme.string
  | .regex => afterGap (openGap cursor) .regex Lexeme.regex
  | .templateChars => afterGap ([], cursor) .stringFragment Lexeme.templateChars
  | .templateEscape => afterGap ([], cursor) .escapeSequence Lexeme.escape
  | .ternary =>
    afterGap (closeGap cursor) (.symbol "?") fun cursor =>
      if isTernary language cursor then some cursor.next else none
  | .insertedSemicolon follow =>
    match semicolonPlace language follow cursor.rest cursor [] with
    | some (trivia, place) => .ok ⟨.insertedSemicolon, trivia, place, place⟩
    | none => .error (closeGap cursor).2
  | .elementText => afterGap ([], cursor) .jsxText Lexeme.elementText
  | .entity => afterGap (closeGap cursor) .htmlCharacterReference Lexeme.entity
  | .elementName kind => afterGap (closeGap cursor) kind Lexeme.elementName
  | .elementString => afterGap (closeGap cursor) .string Lexeme.elementString
  | .hashBangLine => afterGap (openGap cursor) .hashBangLine Lexeme.hashBangLine
  | .lineBreak =>
    afterGap ([], cursor) .insertedSemicolon fun cursor =>
      if (Lexeme.run cursor fun char => isBlank char && char != '\n').at? '\n' then some cursor
      else none
  | .endOfSource =>
    afterGap (openGap cursor) .insertedSemicolon fun cursor =>
      if cursor.atEnd then some cursor else none

end Terminal

end CodeAtlas.Syntax
