import CodeAtlas.Syntax.Lexeme

/-!
# Ends of statements without a semicolon

Where a statement may end, a semicolon is inserted before the end of the source, before a closing
brace, and before a line break whose next token cannot go on with the statement. The two
families of grammars differ in how they look past comments and brackets.
-/
namespace CodeAtlas.Syntax

/-- What may follow a phrase besides the tokens of the phrase itself. -/
structure Follow where
  /-- A statement may end after the phrase. -/
  semicolon : Bool
  /-- A binary operator may follow the phrase. -/
  operators : Bool
  /-- The phrase is a signature that a body may follow. -/
  signature : Bool
  /-- The word `in` goes on with the phrase. -/
  inWord : Bool
  /-- An arrow function in the phrase may declare its result type. -/
  resultTypes : Bool
  deriving DecidableEq, Repr

namespace Follow

/-- Inside brackets. -/
def closed : Follow := ⟨false, true, false, true, true⟩

/-- At the end of a statement that ends with an expression. -/
def statement : Follow := ⟨true, true, false, true, true⟩

/-- At the end of a statement that ends with a type or a name. -/
def declaration : Follow := ⟨true, false, false, true, true⟩

/-- At the end of a signature. -/
def signed : Follow := ⟨true, false, true, true, true⟩

/-- In the head of a loop, where `in` is not an operator. -/
def header : Follow := ⟨false, true, false, false, true⟩

end Follow

namespace Semicolon

/-- Whether a name that begins with `i` here is the word `in` or `instanceof`. -/
def isInWord (cursor : Cursor) : Bool :=
  let ends (last : Cursor) : Bool := !Lexeme.startsWith last Char.isAlpha
  match Lexeme.literal "instanceof" cursor with
  | some last => ends last
  | none => (Lexeme.literal "in" cursor).any ends

/-- Whether the token at the start of a new line cannot go on with the statement before it, apart
from the marks that always do. -/
def beginsAnew (cursor : Cursor) : Bool :=
  if cursor.at? '+' then cursor.next.at? '+'
  else if cursor.at? '-' then cursor.next.at? '-'
  else if cursor.at? '!' then !cursor.next.at? '='
  else if cursor.at? 'i' then !isInWord cursor
  else true

/-- How a scan over blanks and comments ended. -/
inductive GapEnd where
  /-- At a slash that opens no comment. -/
  | slash
  /-- After a block comment without a line break. -/
  | sameLine
  /-- Before another token, or after a block comment with a line break. -/
  | token
  deriving DecidableEq, Repr

/-- Skip blanks and comments. With `whole` unset the scan stops after a block comment, unless a
slash follows it; `broken` tells whether a block comment before held a line break. The glyphs that
are left bound the number of comments. -/
def scanGap (endsComment : Char → Bool) (whole : Bool) :
    List Glyph → Bool → Cursor → GapEnd × Cursor
  | [], _, cursor => (.token, cursor)
  | _ :: bound, broken, cursor =>
    let cursor := Lexeme.run cursor isSpace
    match Lexeme.literal "//" cursor with
    | some last =>
      scanGap endsComment whole bound broken
        (last.skipWhile fun glyph => Glyph.isContent glyph && !Glyph.isIn glyph endsComment)
    | none =>
      match Lexeme.literal "/*" cursor with
      | some first =>
        match Lexeme.blockCommentRest first.rest first.offset first.row with
        | some last =>
          let broken := broken || (cursor.textTo last).any endsComment
          if whole || last.at? '/' then scanGap endsComment whole bound broken last
          else (if broken then .token else .sameLine, last)
        | none => (.token, first.skipWhile Glyph.isContent)
      | none => (if cursor.at? '/' then .slash else .token, cursor)

/-- Whether a character breaks a line in untyped sources. -/
def breaksLine (char : Char) : Bool := char = '\n' || char = '\u2028' || char = '\u2029'

/-- Whether the place is the end of the source, or a null character. -/
def endsSource (cursor : Cursor) : Bool := cursor.atEnd || cursor.at? '\x00'

/-- Whether an untyped statement may not end before this token, which begins a line. -/
def continuesUntyped (cursor : Cursor) : Bool :=
  Lexeme.startsWith cursor fun char => "`,:;*%><=[(?^|&/".toList.contains char

/-- Whether an untyped statement ends before a line break at a place. -/
def endsBeforeBreak (cursor : Cursor) : Bool :=
  match scanGap breaksLine true cursor.rest false cursor.next with
  | (.slash, _) => false
  | (_, cursor) =>
    if continuesUntyped cursor then false
    else if cursor.at? '.' then Lexeme.startsWith cursor.next isDigit
    else beginsAnew cursor

/-- Whether a semicolon is inserted here in an untyped source, given the glyphs that are left. -/
def insertedUntyped (operators : Bool) : List Glyph → Cursor → Bool
  | [], _ => true
  | glyph :: bound, cursor =>
    let slash := cursor.at? '/'
    let (stop, next) :=
      if slash then scanGap breaksLine false (glyph :: bound) false cursor else (.sameLine, cursor)
    if !slash && endsSource cursor then true
    else if stop = .slash then false
    else if stop = .token && !operators && !next.at? ',' && !next.at? '=' then true
    else if next.at? '\x7d' then true
    else if Lexeme.startsWith next breaksLine then endsBeforeBreak next
    else if Lexeme.startsWith next isSpace then insertedUntyped operators bound next.next
    else false

/-- Whether a typed statement may not end before this token, which begins a line. -/
def continuesTyped (follow : Follow) (cursor : Cursor) : Bool :=
  Lexeme.startsWith cursor fun char =>
    "`,.;*%><=?^|&/:".toList.contains char ||
      (char = '\x7b' && follow.signature) ||
      ((char = '(' || char = '[') && follow.operators)

/-- Whether a semicolon is inserted here in a typed source. -/
def insertedTyped (follow : Follow) (cursor : Cursor) : Bool :=
  let cursor := Lexeme.run cursor fun char => isSpace char && char != '\n'
  if endsSource cursor then true
  else if cursor.at? '\x7d' then
    let next := Lexeme.run cursor.next isSpace
    if next.at? ':' then follow.operators else true
  else if cursor.at? '\n' then
    match scanGap (· = '\n') true cursor.rest false cursor.next with
    | (.slash, _) => false
    | (_, cursor) => if continuesTyped follow cursor then false else beginsAnew cursor
  else false

/-- Whether a semicolon is inserted at a place. -/
def inserted (language : Language) (follow : Follow) (cursor : Cursor) : Bool :=
  if language.typed then insertedTyped follow cursor
  else insertedUntyped follow.operators cursor.rest cursor

end Semicolon

end CodeAtlas.Syntax
