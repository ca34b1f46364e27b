import CodeAtlas.Language
import CodeAtlas.Syntax.Character

/-!
# Spelling of tokens

One recognizer for each class of tokens. A recognizer looks at the source from a place and
returns the place after the longest token of its class there, if one begins there. None skips
blanks or comments first, except inside the ending of a quoted string.
-/
namespace CodeAtlas.Syntax

/-- A recognizer of one class of tokens. -/
abbrev Lexeme := Cursor → Option Cursor

namespace Lexeme

/-- Step over a run of characters of a class. -/
def run (cursor : Cursor) (accept : Char → Bool) : Cursor :=
  cursor.skipWhile fun glyph => Glyph.isIn glyph accept

/-- Whether the character at a place belongs to a class. -/
def startsWith (cursor : Cursor) (accept : Char → Bool) : Bool :=
  cursor.char?.any accept

/-- One character of a class. -/
def char (accept : Char → Bool) : Lexeme := fun cursor =>
  if startsWith cursor accept then some cursor.next else none

/-- The given characters. -/
def literal (text : String) : Lexeme := fun cursor => cursor.literal? text.toList

/-- Between `least` and `least + more` characters of a class. -/
def between (accept : Char → Bool) : Nat → Nat → Lexeme
  | least + 1, more, cursor =>
    if startsWith cursor accept then between accept least more cursor.next else none
  | 0, more + 1, cursor =>
    if startsWith cursor accept then between accept 0 more cursor.next else some cursor
  | 0, 0, cursor => some cursor

/-- The first of two recognizers that succeeds. -/
def orElse (first second : Lexeme) : Lexeme := fun cursor => (first cursor).or (second cursor)

/-- One recognizer and then another. -/
def then_ (first second : Lexeme) : Lexeme := fun cursor => (first cursor).bind second

/-- The longer of two tokens at a place. -/
def longer (first second : Lexeme) : Lexeme := fun cursor =>
  match first cursor, second cursor with
  | some left, some right => some (if left.offset < right.offset then right else left)
  | left, right => left.or right

/-- A recognizer that may also match nothing. -/
def optional (inner : Lexeme) : Lexeme := fun cursor => (inner cursor).orElse fun _ => some cursor

/-! ## Names -/

/-- A character in a name written by its code: `\uXXXX` or `\u` with braces. -/
def nameEscape : Lexeme := fun cursor => do
  let cursor ← cursor.literal? ['\\', 'u']
  if cursor.at? '\x7b' then
    let digits ← char isHexDigit cursor.next
    let last := run digits isHexDigit
    if last.at? '\x7d' then some last.next else none
  else between isHexDigit 4 0 cursor

/-- The rest of a name; the glyphs that are left bound the number of written codes in it. -/
def nameRest : List Glyph → Cursor → Cursor
  | [], cursor => cursor
  | _ :: bound, cursor =>
    let cursor := run cursor isNamePart
    match nameEscape cursor with
    | some cursor => nameRest bound cursor
    | none => cursor

/-- A name. -/
def name : Lexeme := fun cursor =>
  match (char isNameStart cursor).or (nameEscape cursor) with
  | some next => some (nameRest next.rest next)
  | none => none

/-- A private name: a number sign and a name without a gap. -/
def privateName : Lexeme := then_ (literal "#") name

/-! ## Numbers -/

/-- Digits of a class, with single underscores between them; the glyphs that are left bound the
number of underscores. -/
def digitsRest (accept : Char → Bool) : List Glyph → Cursor → Cursor
  | [], cursor => cursor
  | _ :: bound, cursor =>
    let cursor := run cursor accept
    if cursor.at? '_' && startsWith cursor.next accept then
      digitsRest accept bound cursor.next
    else cursor

/-- At least one digit of a class, with single underscores between digits. -/
def digits (accept : Char → Bool) : Lexeme := fun cursor =>
  if startsWith cursor accept then some (digitsRest accept cursor.rest cursor) else none

/-- A number with a base mark, such as `0x`. -/
def marked (marks : List Char) (accept : Char → Bool) : Lexeme :=
  then_ (literal "0") (then_ (char marks.contains) (digits accept))

/-- The exponent of a decimal number. -/
def exponent : Lexeme :=
  then_ (char fun mark => mark = 'e' || mark = 'E')
    (then_ (optional (char fun sign => sign = '+' || sign = '-')) (digits isDigit))

/-- A number without a base mark. -/
def decimal : Lexeme :=
  longer
    (then_ (digits isDigit)
      (then_ (optional (then_ (literal ".") (optional (digits isDigit)))) (optional exponent)))
    (then_ (literal ".") (then_ (digits isDigit) (optional exponent)))

/-- A whole number in any base. -/
def whole : Lexeme :=
  longer (digits isDigit) (longer (marked ['x', 'X'] isHexDigit)
    (longer (marked ['b', 'B'] fun digit => digit = '0' || digit = '1')
      (marked ['o', 'O'] fun digit => '0' ≤ digit && digit ≤ '7')))

/-- A number. -/
def number : Lexeme := longer decimal (longer whole (then_ whole (literal "n")))

/-! ## Comments -/

/-- The rest of a block comment after its opening, to its first closing mark. -/
def blockCommentRest : List Glyph → Nat → Nat → Option Cursor
  | [], _, _ => none
  | glyph :: rest, offset, row =>
    if glyph.is '\x00' then none
    else
      let offset := offset + glyph.width
      let row := row + if glyph.is '\n' then 1 else 0
      match rest with
      | slash :: after =>
        if glyph.is '*' && slash.is '/' then some ⟨after, offset + slash.width, row⟩
        else blockCommentRest rest offset row
      | [] => none

/-- A comment between marks. -/
def blockComment : Lexeme := fun cursor => do
  let cursor ← cursor.literal? ['/', '*']
  blockCommentRest cursor.rest cursor.offset cursor.row

/-- The rest of the line. -/
def restOfLine (cursor : Cursor) : Cursor :=
  cursor.skipWhile fun glyph => Glyph.isContent glyph && !Glyph.isIn glyph endsLine

/-- A comment to the end of the line. -/
def lineComment : Lexeme := fun cursor => (cursor.literal? ['/', '/']).map restOfLine

/-- A comment. -/
def comment : Lexeme := orElse lineComment blockComment

/-- A comment between angle brackets, to the end of its line. -/
def htmlComment : Lexeme := fun cursor =>
  ((literal "<!--" cursor).or (literal "-->" cursor)).map restOfLine

/-- The first line of a script that names its interpreter. -/
def hashBangLine : Lexeme := fun cursor =>
  (literal "#!" cursor).map fun cursor =>
    cursor.skipWhile fun glyph => Glyph.isContent glyph && !glyph.is '\n'

/-! ## Quoted text -/

/-- A character that is written with a backslash. -/
def escape : Lexeme := fun cursor => do
  let cursor ← cursor.literal? ['\\']
  match cursor.rest with
  | [] => none
  | glyph :: _ =>
    if glyph.is 'x' then between isHexDigit 2 0 cursor.next
    else if glyph.is 'u' then
      if cursor.next.at? '\x7b' then
        let last ← char isHexDigit cursor.next.next
        let last := run last isHexDigit
        if last.at? '\x7d' then some last.next else none
      else between isHexDigit 4 0 cursor.next
    else if Glyph.isIn glyph fun digit => '0' ≤ digit && digit ≤ '7' then
      between (fun digit => '0' ≤ digit && digit ≤ '7') 1 2 cursor
    else if glyph.is '\x00' then none
    else if glyph.is '\r' then
      some (if startsWith cursor.next fun char => char = '\n' || char = '\u2028' || char = '\u2029'
        then cursor.next.next else cursor.next)
    else some cursor.next

/-- Blanks and comments; the glyphs that are left bound the number of comments. -/
def gap : List Glyph → Cursor → Cursor
  | [], cursor => cursor
  | _ :: bound, cursor =>
    let cursor := run cursor isBlank
    match comment cursor with
    | some cursor => gap bound cursor
    | none => cursor

/-- The inside of a quoted string and its closing quote; the glyphs from the opening quote on bound
the number of pieces. Between the last piece and the closing quote a gap may stand. -/
def quotedRest (quote : Char) : List Glyph → Lexeme
  | [], _ => none
  | glyph :: bound, cursor =>
    match escape cursor with
    | some cursor => quotedRest quote bound cursor
    | none =>
      let last := cursor.skipWhile fun glyph => Glyph.isContent glyph && !glyph.is quote &&
        !glyph.is '\\' && !glyph.is '\n' && !glyph.is '\r'
      if cursor.offset < last.offset then quotedRest quote bound last
      else
        let last := gap (glyph :: bound) cursor
        if last.at? quote then some last.next else none

/-- A quoted string. -/
def string : Lexeme := fun cursor =>
  if cursor.at? '"' then quotedRest '"' cursor.rest cursor.next
  else if cursor.at? '\x27' then quotedRest '\x27' cursor.rest cursor.next
  else none

/-- The characters of a template up to its next escape, substitution or end. -/
def templateRun : List Glyph → Nat → Nat → Cursor
  | [], offset, row => ⟨[], offset, row⟩
  | glyph :: rest, offset, row =>
    let here : Cursor := ⟨glyph :: rest, offset, row⟩
    if glyph.is '\x60' || glyph.is '\\' || glyph.is '\x00' then here
    else if glyph.is '$' && rest.head?.any (·.is '\x7b') then here
    else templateRun rest (offset + glyph.width) (row + if glyph.is '\n' then 1 else 0)

/-- The characters of a template. -/
def templateChars : Lexeme := fun cursor =>
  let last := templateRun cursor.rest cursor.offset cursor.row
  if cursor.offset < last.offset then some last else none

/-- The rest of a character class of a regular expression, after its opening bracket. -/
def regexClass : List Glyph → Nat → Nat → Option Cursor
  | [], _, _ => none
  | glyph :: rest, offset, row =>
    if glyph.is ']' then some ⟨rest, offset + glyph.width, row⟩
    else if glyph.is '\n' || glyph.is '\x00' then none
    else if glyph.is '\\' then
      match rest with
      | escaped :: rest =>
        if escaped.is '\n' || escaped.is '\x00' then none
        else regexClass rest (offset + glyph.width + escaped.width) row
      | [] => none
    else regexClass rest (offset + glyph.width) row

/-- The pattern of a regular expression up to its closing slash; the glyphs from the opening slash
on bound the number of its pieces. -/
def regexBody : List Glyph → Cursor → Option Cursor
  | [], _ => none
  | _ :: bound, cursor =>
    match cursor.rest with
    | [] => none
    | glyph :: rest =>
      if glyph.is '/' then some cursor
      else if glyph.is '\n' || glyph.is '\x00' then none
      else if glyph.is '[' then
        (regexClass rest (cursor.offset + glyph.width) cursor.row).bind (regexBody bound)
      else if glyph.is '\\' then
        match rest with
        | escaped :: _ =>
          if escaped.is '\n' || escaped.is '\x00' then none
          else regexBody bound cursor.next.next
        | [] => none
      else regexBody bound cursor.next

/-- A regular expression with its flags. -/
def regex : Lexeme := fun cursor => do
  let first ← cursor.literal? ['/']
  let last ← regexBody cursor.rest first
  if first.offset < last.offset then some (run last.next fun flag => 'a' ≤ flag && flag ≤ 'z')
  else none

/-! ## Embedded elements -/

/-- A name of an element or attribute that holds a hyphen. -/
def hyphenName : Lexeme := fun cursor =>
  let isStart (char : Char) : Bool :=
    ('a' ≤ char && char ≤ 'z') || ('A' ≤ char && char ≤ 'Z') || char = '_' || char = '$'
  let isPart (char : Char) : Bool := isStart char || isDigit char
  if startsWith cursor isStart then
    let first := run cursor isPart
    if first.at? '-' then some (run first fun char => isPart char || char = '-') else none
  else none

/-- A name of an element or attribute. -/
def elementName : Lexeme := longer hyphenName name

/-- A quoted attribute; entities in it are not told apart from text. -/
def elementString : Lexeme := fun cursor =>
  let close (quote : Char) : Option Cursor :=
    let last := cursor.next.skipWhile fun glyph => Glyph.isContent glyph && !glyph.is quote
    if last.at? quote then some last.next else none
  if cursor.at? '"' then close '"' else if cursor.at? '\x27' then close '\x27' else none

/-- An entity in the text of an element. -/
def entity : Lexeme :=
  let isLetter (char : Char) : Bool := ('a' ≤ char && char ≤ 'z') || ('A' ≤ char && char ≤ 'Z')
  then_ (literal "&") (then_
    (orElse
      (then_ (literal "#") (orElse
        (then_ (char fun mark => mark = 'x' || mark = 'X') (between isHexDigit 1 5))
        (between isDigit 1 4)))
      (between isLetter 1 29))
    (literal ";"))

/-- The state of a scan of element text: whether text was seen, and whether the scan stands in
the blanks after a line feed. -/
structure TextScan where
  /-- Some character counts as text. -/
  seen : Bool
  /-- Only blanks have come since the last line feed. -/
  atLineStart : Bool

/-- The text of an element up to the next mark. Blanks that follow a line feed do not make text. -/
def elementTextRun : List Glyph → Nat → Nat → TextScan → Cursor × Bool
  | [], offset, row, scan => (⟨[], offset, row⟩, scan.seen)
  | glyph :: rest, offset, row, scan =>
    if Glyph.isIn glyph fun char => ['\x00', '<', '>', '\x7b', '\x7d', '&'].contains char then
      (⟨glyph :: rest, offset, row⟩, scan.seen)
    else if glyph.is '\n' then
      elementTextRun rest (offset + glyph.width) (row + 1) ⟨scan.seen, true⟩
    else
      let atLineStart := scan.atLineStart && Glyph.isIn glyph isSpace
      elementTextRun rest (offset + glyph.width) row ⟨scan.seen || !atLineStart, atLineStart⟩

/-- The text of an element. -/
def elementText : Lexeme := fun cursor =>
  let (last, seen) := elementTextRun cursor.rest cursor.offset cursor.row ⟨false, false⟩
  if seen then some last else none

/-! ## Operators -/

/-- The operators of expressions, each before those it begins with. -/
def operators : List String :=
  [">>>=", "...", "===", "!==", "**=", "<<=", ">>=", ">>>", "&&=", "||=", "??=", "=>", "==", "!=",
    "<=", ">=", "&&", "||", "??", "?.", "++", "--", "+=", "-=", "*=", "/=", "%=", "&=", "|=", "^=",
    "<<", ">>", "**", "=", "<", ">", "+", "-", "*", "/", "%", "&", "|", "^", "!", "~", "?", ".",
    ",", ":"]

/-- The longest operator at a place. A question mark before a number is no chaining operator. -/
def operator? (cursor : Cursor) : Option (String × Cursor) :=
  operators.findSome? fun text =>
    match literal text cursor with
    | some last =>
      if text == "?." && startsWith last isDigit then none else some (text, last)
    | none => none

end Lexeme

end CodeAtlas.Syntax
