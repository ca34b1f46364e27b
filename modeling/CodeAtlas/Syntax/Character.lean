import CodeAtlas.Source.Cursor

/-!
# Characters of source text

The classes of characters that tokens are made of. Blanks separate tokens; a name begins with
any character that is neither blank, control, punctuation nor digit, and goes on with digits too.
A damaged byte belongs to no class.
-/
namespace CodeAtlas.Syntax

/-- Whether a character separates tokens. -/
def isBlank (char : Char) : Bool :=
  let code := char.toNat
  (0x09 ≤ code && code ≤ 0x0d) || code = 0x20 || code = 0x85 || code = 0xa0 || code = 0x1680 ||
    (0x2000 ≤ code && code ≤ 0x200b) || code = 0x2028 || code = 0x2029 || code = 0x202f ||
    code = 0x205f || code = 0x2060 || code = 0x3000 || code = 0xfeff

/-- Whether a character counts as space where a statement's end is looked for. -/
def isSpace (char : Char) : Bool :=
  let code := char.toNat
  (0x09 ≤ code && code ≤ 0x0d) || code = 0x20 || code = 0x1680 ||
    (0x2000 ≤ code && code ≤ 0x2006) || (0x2008 ≤ code && code ≤ 0x200a) ||
    code = 0x2028 || code = 0x2029 || code = 0x205f || code = 0x3000

/-- Whether a character is a decimal digit of a number. -/
def isDigit (char : Char) : Bool := '0' ≤ char && char ≤ '9'

/-- Whether a character is a digit in base sixteen. -/
def isHexDigit (char : Char) : Bool :=
  isDigit char || ('a' ≤ char && char ≤ 'f') || ('A' ≤ char && char ≤ 'F')

/-- The punctuation that no name holds. -/
def namePunctuation : List Char := ":;`\"'@#.,|^&<=>+-*/\\%?!~()[]\x7b\x7d".toList

/-- Whether a character begins a name. -/
def isNameStart (char : Char) : Bool :=
  0x20 < char.toNat && !isBlank char && !isDigit char && !namePunctuation.contains char

/-- Whether a character goes on with a name. -/
def isNamePart (char : Char) : Bool := isNameStart char || isDigit char

/-- Whether a character ends a line of a comment. -/
def endsLine (char : Char) : Bool :=
  char = '\n' || char = '\r' || char = '\u2028' || char = '\u2029'

/-- Whether a glyph is a character of a class. -/
def Glyph.isIn (glyph : Glyph) (accept : Char → Bool) : Bool :=
  glyph != CodeAtlas.Glyph.damaged && accept glyph.char

/-- Whether a glyph may stand in free text; the null character ends every token. -/
def Glyph.isContent (glyph : Glyph) : Bool := !glyph.is '\x00'

end CodeAtlas.Syntax
