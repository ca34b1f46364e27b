import CodeAtlas.Proofs.Source.Rows

/-!
# Extents of a source

An extent between two places of a source lies in the source, unless its bytes run backwards, and
its rows are those of its ends: `Span.Joins.isOf`. So its last row is not before its first one, and
an extent within another has rows within those of the other.
-/
namespace CodeAtlas

/-! ## Extents in bytes -/

/-- An extent is one of some bytes if it is a stretch of them, with rows that count line feeds. -/
structure Span.IsOf (bytes : List UInt8) (span : Span) : Prop where
  /-- Its bytes do not run backwards. -/
  forward : span.start ≤ span.stop
  /-- It does not reach behind the last byte. -/
  within : span.stop ≤ bytes.length
  /-- Its first row is that of its first byte. -/
  startRow_eq : span.startRow = rowOf bytes span.start
  /-- Its last row is that of the byte after its last one. -/
  stopRow_eq : span.stopRow = rowOf bytes span.stop

/-- An extent begins and ends within another. -/
structure Span.Within (outer inner : Span) : Prop where
  /-- It does not begin before the other. -/
  start_le : outer.start ≤ inner.start
  /-- It does not end after the other. -/
  le_stop : inner.stop ≤ outer.stop

namespace Span

variable {bytes : List UInt8} {span outer inner : Span}

/-- The last row of an extent is not before its first one. -/
theorem IsOf.startRow_le (isOf : span.IsOf bytes) : span.startRow ≤ span.stopRow := by
  rw [isOf.startRow_eq, isOf.stopRow_eq]
  exact rowOf_mono bytes isOf.forward

/-- No extent ends on a row behind the last line feed. -/
theorem IsOf.stopRow_le (isOf : span.IsOf bytes) : span.stopRow ≤ bytes.count lineFeed := by
  rw [isOf.stopRow_eq]
  exact rowOf_le bytes span.stop

/-- An extent within another one does not begin on an earlier row. -/
theorem Within.startRow_le (within : outer.Within inner) (one : outer.IsOf bytes)
    (other : inner.IsOf bytes) : outer.startRow ≤ inner.startRow := by
  rw [one.startRow_eq, other.startRow_eq]
  exact rowOf_mono bytes within.start_le

/-- An extent within another one does not end on a later row. -/
theorem Within.stopRow_le (within : outer.Within inner) (one : outer.IsOf bytes)
    (other : inner.IsOf bytes) : inner.stopRow ≤ outer.stopRow := by
  rw [one.stopRow_eq, other.stopRow_eq]
  exact rowOf_mono bytes within.le_stop

/-- What is within an extent that is within another is within the other. -/
theorem Within.trans {middle : Span} (one : outer.Within middle) (other : middle.Within inner) :
    outer.Within inner :=
  ⟨Nat.le_trans one.start_le other.start_le, Nat.le_trans other.le_stop one.le_stop⟩

end Span

/-! ## Extents between places -/

/-- An extent is one between two places that are reached from a start. -/
def Span.Joins (start : Cursor) (span : Span) : Prop :=
  ∃ first last, start.Reaches first ∧ start.Reaches last ∧ span = first.spanTo last

namespace Span.Joins

variable {start : Cursor} {span other : Span}

/-- The extent from one such extent to another is one. -/
theorem through (one : span.Joins start) (two : other.Joins start) :
    (span.through other).Joins start := by
  obtain ⟨first, _, begun, _, rfl⟩ := one
  obtain ⟨_, last, _, ended, rfl⟩ := two
  exact ⟨first, last, begun, ended, rfl⟩

/-- It is one as well if places are reached from an earlier start. -/
theorem earlier {cursor : Cursor} (joins : span.Joins cursor) (reaches : start.Reaches cursor) :
    span.Joins start := by
  obtain ⟨first, last, begun, ended, rfl⟩ := joins
  exact ⟨first, last, reaches.trans begun, reaches.trans ended, rfl⟩

/-- An extent between places of a source is one of its bytes, if these do not run backwards. -/
theorem isOf {bytes : List UInt8} (joins : span.Joins (Cursor.start bytes))
    (forward : span.start ≤ span.stop) : span.IsOf bytes := by
  obtain ⟨first, last, begun, ended, rfl⟩ := joins
  have one := begun.divides (Cursor.divides_start bytes)
  have two := ended.divides (Cursor.divides_start bytes)
  exact ⟨forward, two.offset_le, one.row_eq, two.row_eq⟩

end Span.Joins

end CodeAtlas
