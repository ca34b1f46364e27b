/-!
# Places in a text

A place is what is left of a text together with the line and column where it begins. Moving on
keeps account of line breaks; a carriage return and a line feed are one break.
-/
namespace CodeAtlas.Yaml

/-- Whether a character breaks a line. -/
def isBreak (char : Char) : Bool :=
  char = '\n' || char = '\r' || char = '\u0085' || char = '\u2028' || char = '\u2029'

/-- Whether the next character, which may be missing, ends a line. -/
def endsLine : Option Char → Bool
  | none => true
  | some char => isBreak char

/-- Whether the next character, which may be missing, ends a word that blanks end. -/
def endsAtBlank : Option Char → Bool
  | none => true
  | some char => char = ' ' || isBreak char

/-- Whether the next character, which may be missing, ends a word. -/
def endsWord : Option Char → Bool
  | none => true
  | some char => char = ' ' || char = '\t' || isBreak char

/-- Whether a character may stand in a text. -/
def isPrintable (char : Char) : Bool :=
  let code := char.toNat
  code = 0x09 || code = 0x0a || code = 0x0d || (0x20 ≤ code && code ≤ 0x7e) || code = 0x85 ||
    (0xa0 ≤ code && code ≤ 0xd7ff) || (0xe000 ≤ code && code ≤ 0xfffd) || 0x10000 ≤ code

/-- A place in a text. -/
structure Place where
  /-- What is left. -/
  rest : List Char
  /-- Characters before. -/
  index : Nat
  /-- Lines before. -/
  line : Nat
  /-- Characters of the line before. -/
  column : Nat

namespace Place

/-- The beginning of a text. -/
def start (text : List Char) : Place := ⟨text, 0, 0, 0⟩

/-- The next character. -/
def head? (place : Place) : Option Char := place.rest.head?

/-- The character after so many others. -/
def peek? (place : Place) (count : Nat) : Option Char := place.rest[count]?

/-- Whether a character comes next. -/
def isAt (place : Place) (char : Char) : Bool := place.head? = some char

/-- The place after the next character. -/
def next (place : Place) : Place :=
  match place.rest with
  | [] => place
  | char :: rest =>
    let index := place.index + 1
    if char = '\n' || char = '\u0085' || char = '\u2028' || char = '\u2029' ||
        (char = '\r' && rest.head? ≠ some '\n') then ⟨rest, index, place.line + 1, 0⟩
    else if char = '\ufeff' then ⟨rest, index, place.line, place.column⟩
    else ⟨rest, index, place.line, place.column + 1⟩

/-- The place after so many characters. -/
def skip (place : Place) : Nat → Place
  | 0 => place
  | count + 1 => place.next.skip count

/-- The characters of a class at the front of a list, and the place after them. -/
def spanFrom (keep : Char → Bool) : List Char → Place → List Char × Place
  | [], place => ([], place)
  | char :: rest, place =>
    if keep char then
      let (found, place) := spanFrom keep rest place.next
      (char :: found, place)
    else ([], place)

/-- The characters of a class that come next, and the place after them. -/
def span (place : Place) (keep : Char → Bool) : List Char × Place :=
  spanFrom keep place.rest place

/-- The place after the characters of a class. -/
def skipWhile (place : Place) (keep : Char → Bool) : Place := (place.span keep).2

/-- The place after blanks. -/
def skipBlanks (place : Place) : Place := place.skipWhile (· = ' ')

/-- The line break that comes next, and the place after it. -/
def lineBreak? (place : Place) : Option (Char × Place) :=
  match place.rest with
  | '\r' :: '\n' :: _ => some ('\n', place.skip 2)
  | char :: _ =>
    if char = '\r' || char = '\n' || char = '\u0085' then some ('\n', place.next)
    else if char = '\u2028' || char = '\u2029' then some (char, place.next)
    else none
  | [] => none

/-- Whether a mark between documents comes next. -/
def atSeparator (place : Place) : Bool :=
  (['-', '-', '-'].isPrefixOf place.rest || ['.', '.', '.'].isPrefixOf place.rest) &&
    endsWord (place.peek? 3)

end Place

end CodeAtlas.Yaml
