/-!
# Blanks and lines of text

`isSpace` is the class of white space that is trimmed from texts and squeezed in them; `lines`
splits a text at every line boundary, a carriage return with a line feed counting as one.
-/
namespace CodeAtlas.Text

/-- Whether a character is white space. -/
def isSpace (char : Char) : Bool :=
  let code := char.toNat
  (0x09 ≤ code && code ≤ 0x0d) || (0x1c ≤ code && code ≤ 0x20) || code = 0x85 || code = 0xa0 ||
    code = 0x1680 || (0x2000 ≤ code && code ≤ 0x200a) || code = 0x2028 || code = 0x2029 ||
    code = 0x202f || code = 0x205f || code = 0x3000

/-- Whether a character is white space that does not separate records of information. -/
def isPlainSpace (char : Char) : Bool :=
  isSpace char && !(0x1c ≤ char.toNat && char.toNat ≤ 0x1f)

/-- Whether a character ends a line. -/
def isLineBoundary (char : Char) : Bool :=
  let code := char.toNat
  (0x0a ≤ code && code ≤ 0x0d) || (0x1c ≤ code && code ≤ 0x1e) || code = 0x85 ||
    code = 0x2028 || code = 0x2029

/-- The characters without white space at their start. -/
def trimStart (chars : List Char) : List Char := chars.dropWhile isSpace

/-- The characters without white space at their end. -/
def trimEnd (chars : List Char) : List Char := (chars.reverse.dropWhile isSpace).reverse

/-- The characters without those of a class around them. -/
def trimBy (drop : Char → Bool) (chars : List Char) : List Char :=
  ((chars.dropWhile drop).reverse.dropWhile drop).reverse

/-- The characters without white space around them. -/
def trim (chars : List Char) : List Char := trimEnd (trimStart chars)

/-- Split characters at line boundaries; `current` holds the line so far, last character first.
A boundary at the very end begins no further line. -/
def linesFrom : List Char → List Char → List (List Char)
  | current, [] => if current.isEmpty then [] else [current.reverse]
  | current, '\r' :: '\n' :: rest => current.reverse :: linesFrom [] rest
  | current, char :: rest =>
    if isLineBoundary char then current.reverse :: linesFrom [] rest
    else linesFrom (char :: current) rest

/-- The lines of a text, without their boundaries. -/
def lines (chars : List Char) : List (List Char) := linesFrom [] chars

/-- Characters with every line break as a line feed. -/
def unifyBreaks : List Char → List Char
  | '\r' :: '\n' :: rest => '\n' :: unifyBreaks rest
  | '\r' :: rest => '\n' :: unifyBreaks rest
  | char :: rest => char :: unifyBreaks rest
  | [] => []

/-- Texts with a line feed between them. -/
def joinLines : List (List Char) → List Char
  | [] => []
  | [line] => line
  | line :: rest => line ++ '\n' :: joinLines rest

end CodeAtlas.Text
