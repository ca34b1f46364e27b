import CodeAtlas.Text.Utf8

/-!
# Source text and positions

A source is kept as bytes, because extents of syntax nodes count bytes. For reading it is a list
of glyphs: one glyph for each scalar, and one for each byte that belongs to none. A cursor is
the rest of that list with its byte offset and its row; rows change at line feeds only.
-/
namespace CodeAtlas

/-- One unit of source text and the number of bytes it takes. -/
structure Glyph where
  /-- The scalar, or the replacement character for a damaged byte. -/
  char : Char
  /-- Bytes taken. -/
  width : Nat
  deriving DecidableEq, Repr

namespace Glyph

/-- The glyph of a byte that belongs to no scalar; a real replacement character is wider. -/
def damaged : Glyph := ⟨Utf8.replacement, 1⟩

/-- Whether a glyph is the given character. -/
def is (glyph : Glyph) (char : Char) : Bool := glyph.char == char && glyph != damaged

end Glyph

/-- The glyphs of a byte list. -/
def glyphsOfBytes : List UInt8 → List Glyph
  | [] => []
  | lead :: rest =>
    match Utf8.front lead rest with
    | .scalar char extra => ⟨char, extra + 1⟩ :: glyphsOfBytes (rest.drop extra)
    | .damaged _ => Glyph.damaged :: glyphsOfBytes rest
termination_by bytes => bytes.length
decreasing_by all_goals simp only [List.length_drop, List.length_cons]; omega

/-- A place in a source. -/
structure Cursor where
  /-- Glyphs not yet read. -/
  rest : List Glyph
  /-- Bytes before this place. -/
  offset : Nat
  /-- Line feeds before this place. -/
  row : Nat
  deriving Repr

namespace Cursor

/-- The start of a source. -/
def start (bytes : List UInt8) : Cursor := ⟨glyphsOfBytes bytes, 0, 0⟩

/-- The place after one glyph, whose remaining glyphs are given. -/
def after (cursor : Cursor) (glyph : Glyph) (rest : List Glyph) : Cursor :=
  ⟨rest, cursor.offset + glyph.width, cursor.row + if glyph.is '\n' then 1 else 0⟩

/-- Step over one glyph; at the end of the source nothing changes. -/
def next (cursor : Cursor) : Cursor :=
  match cursor.rest with
  | [] => cursor
  | glyph :: rest => cursor.after glyph rest

/-- The glyph at a place. -/
def peek (cursor : Cursor) : Option Glyph := cursor.rest.head?

/-- The character at a place; a damaged byte has none. -/
def char? (cursor : Cursor) : Option Char :=
  match cursor.rest with
  | glyph :: _ => if glyph = Glyph.damaged then none else some glyph.char
  | [] => none

/-- Whether the character at a place is the given one. -/
def at? (cursor : Cursor) (char : Char) : Bool := cursor.char? == some char

/-- Whether the source ends here. -/
def atEnd (cursor : Cursor) : Bool := cursor.rest.isEmpty

/-- Step over a run of glyphs that `keep` accepts. -/
def skipRun (keep : Glyph → Bool) : List Glyph → Nat → Nat → Cursor
  | [], offset, row => ⟨[], offset, row⟩
  | glyph :: rest, offset, row =>
    if keep glyph then
      skipRun keep rest (offset + glyph.width) (row + if glyph.is '\n' then 1 else 0)
    else ⟨glyph :: rest, offset, row⟩

/-- Step over the longest run of glyphs that `keep` accepts. -/
def skipWhile (cursor : Cursor) (keep : Glyph → Bool) : Cursor :=
  skipRun keep cursor.rest cursor.offset cursor.row

/-- Step over the given characters, if they stand here. -/
def literal? (cursor : Cursor) : List Char → Option Cursor
  | [] => some cursor
  | char :: chars => if cursor.at? char then cursor.next.literal? chars else none

/-- The characters of glyphs that begin before an offset. -/
def charsBefore (stop : Nat) : List Glyph → Nat → List Char
  | [], _ => []
  | glyph :: rest, offset =>
    if offset < stop then glyph.char :: charsBefore stop rest (offset + glyph.width) else []

/-- The characters between two places. -/
def textTo (cursor last : Cursor) : List Char :=
  charsBefore last.offset cursor.rest cursor.offset

end Cursor

/-- An extent of a source in bytes and rows, from its first byte to the one after its last. -/
structure Span where
  /-- Offset of the first byte. -/
  start : Nat
  /-- Offset after the last byte. -/
  stop : Nat
  /-- Row of the first byte. -/
  startRow : Nat
  /-- Row after the last byte. -/
  stopRow : Nat
  deriving DecidableEq, Repr

/-- The extent between two places. -/
def Cursor.spanTo (first last : Cursor) : Span :=
  ⟨first.offset, last.offset, first.row, last.row⟩

/-- The extent from the start of one extent to the end of another. -/
def Span.through (first last : Span) : Span :=
  ⟨first.start, last.stop, first.startRow, last.stopRow⟩

end CodeAtlas
