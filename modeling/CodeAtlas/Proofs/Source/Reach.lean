import CodeAtlas.Source.Cursor

/-!
# Going forward in a source

One place of a source is reached from another by stepping over glyphs. Every glyph takes bytes, so
offsets tell how far a place is: `Reaches.offset_le` and `Passes.offset_lt`.
-/
namespace CodeAtlas

/-- A glyph is one character only. -/
theorem Glyph.is_eq_false {glyph : Glyph} {char other : Char} (found : glyph.is char = true)
    (differ : char ≠ other) : glyph.is other = false := by
  simp only [is, Bool.and_eq_true, beq_iff_eq] at found
  simp [is, found.1, differ]

namespace Cursor

/-- A place that is come to by stepping over glyphs. -/
inductive Reaches : Cursor → Cursor → Prop where
  | refl (cursor : Cursor) : Reaches cursor cursor
  | step {cursor last : Cursor} {glyph : Glyph} {rest : List Glyph}
      (here : cursor.rest = glyph :: rest) (further : Reaches (cursor.after glyph rest) last) :
      Reaches cursor last

/-- A place that is come to by stepping over a glyph at least. -/
def Passes (cursor last : Cursor) : Prop :=
  ∃ glyph rest, cursor.rest = glyph :: rest ∧ Reaches (cursor.after glyph rest) last

/-- All glyphs from a place on take bytes. -/
def Solid (cursor : Cursor) : Prop := ∀ glyph ∈ cursor.rest, 0 < glyph.width

variable {first middle last cursor : Cursor}

/-- Going on from a place that was reached. -/
theorem Reaches.trans (before : first.Reaches middle) (after : middle.Reaches last) :
    first.Reaches last := by
  induction before with
  | refl => exact after
  | step here _ ih => exact .step here (ih after)

/-- A place that is passed to is reached. -/
theorem Passes.reaches (passes : first.Passes last) : first.Reaches last := by
  obtain ⟨glyph, rest, here, further⟩ := passes
  exact .step here further

/-- Going on after passing a glyph. -/
theorem Passes.trans (before : first.Passes middle) (after : middle.Reaches last) :
    first.Passes last := by
  obtain ⟨glyph, rest, here, further⟩ := before
  exact ⟨glyph, rest, here, further.trans after⟩

/-- Glyphs that take bytes take bytes from a later place on. -/
theorem Reaches.solid (reaches : first.Reaches last) (solid : first.Solid) : last.Solid := by
  induction reaches with
  | refl => exact solid
  | step here _ ih =>
    refine ih fun glyph member => solid glyph ?_
    rw [here]
    exact .tail _ member

/-- A later place has no smaller offset. -/
theorem Reaches.offset_le (reaches : first.Reaches last) : first.offset ≤ last.offset := by
  induction reaches with
  | refl => exact Nat.le_refl _
  | step _ _ ih => exact Nat.le_trans (Nat.le_add_right _ _) ih

/-- A place after a glyph has a larger offset. -/
theorem Passes.offset_lt (passes : first.Passes last) (solid : first.Solid) :
    first.offset < last.offset := by
  obtain ⟨glyph, rest, here, further⟩ := passes
  have occupied : 0 < glyph.width := solid glyph (by rw [here]; exact .head _)
  have within := further.offset_le
  change first.offset + glyph.width ≤ last.offset at within
  omega

/-- Of two places that are reached one is reached from the other. -/
theorem Reaches.linear (one : first.Reaches middle) (other : first.Reaches last) :
    middle.Reaches last ∨ last.Reaches middle := by
  induction one with
  | refl => exact .inl other
  | step here further ih =>
    cases other with
    | refl => exact .inr (.step here further)
    | step there beyond =>
      obtain ⟨rfl, rfl⟩ := List.cons.inj (here.symm.trans there)
      exact ih beyond

/-- A place that is reached is the same or behind at least the next one. -/
theorem Reaches.eq_or_next (reaches : first.Reaches last) :
    first = last ∨ first.next.Reaches last := by
  cases reaches with
  | refl => exact .inl rfl
  | step here further =>
    rw [next, here]
    exact .inr further

/-- The next place is not behind a place that is. -/
theorem Reaches.next_offset_le (one : first.Reaches middle) (other : first.Reaches last)
    (before : middle.offset < last.offset) : middle.next.offset ≤ last.offset := by
  rcases one.linear other with on | back
  · rcases on.eq_or_next with rfl | further
    · exact absurd before (Nat.lt_irrefl _)
    · exact further.offset_le
  · exact absurd back.offset_le (Nat.not_le_of_lt before)

/-- A source has one place for each offset that is reached. -/
theorem Reaches.eq_of_offset_eq (solid : first.Solid) (one : first.Reaches middle)
    (other : first.Reaches last) (same : middle.offset = last.offset) : middle = last := by
  have still {near far : Cursor} (near_solid : near.Solid) (reaches : near.Reaches far)
      (same : near.offset = far.offset) : near = far := by
    cases reaches with
    | refl => rfl
    | step here further =>
      have passes : near.Passes far := ⟨_, _, here, further⟩
      exact absurd same (Nat.ne_of_lt (passes.offset_lt near_solid))
  rcases one.linear other with on | back
  · exact still (one.solid solid) on same
  · exact (still (other.solid solid) back same.symm).symm

/-- Stepping over a glyph that is no line feed leaves the row. -/
theorem Reaches.step_inline {glyph : Glyph} {rest : List Glyph} {offset row : Nat}
    (plain : glyph.is '\n' = false) (further : Reaches ⟨rest, offset + glyph.width, row⟩ last) :
    Reaches ⟨glyph :: rest, offset, row⟩ last := by
  refine .step rfl ?_
  simpa [after, plain] using further

/-- Stepping over a glyph, if there is one, goes forward. -/
theorem reaches_next (cursor : Cursor) : cursor.Reaches cursor.next := by
  cases here : cursor.rest with
  | nil =>
    have same : cursor.next = cursor := by rw [next, here]
    rw [same]
    exact .refl cursor
  | cons glyph rest =>
    have stepped : cursor.next = cursor.after glyph rest := by rw [next, here]
    rw [stepped]
    exact .step here (.refl _)

/-- Stepping over a character passes a glyph. -/
theorem passes_next (found : cursor.char?.isSome = true) : cursor.Passes cursor.next := by
  cases here : cursor.rest with
  | nil => simp [char?, here] at found
  | cons glyph rest =>
    refine ⟨glyph, rest, here, ?_⟩
    rw [next, here]
    exact .refl _

/-- A place with a character has one. -/
theorem isSome_of_at? {char : Char} (found : cursor.at? char = true) :
    cursor.char?.isSome = true := by
  rw [at?, beq_iff_eq] at found
  rw [found]
  rfl

/-- Stepping over a given character passes a glyph. -/
theorem passes_next_of_at? {char : Char} (found : cursor.at? char = true) :
    cursor.Passes cursor.next :=
  passes_next (isSome_of_at? found)

/-- A run of glyphs leads forward. -/
theorem reaches_skipRun (keep : Glyph → Bool) (rest : List Glyph) (offset row : Nat) :
    Reaches ⟨rest, offset, row⟩ (skipRun keep rest offset row) := by
  induction rest generalizing offset row with
  | nil => exact .refl _
  | cons glyph rest ih =>
    rw [skipRun]
    split
    · exact .step rfl (ih _ _)
    · exact .refl _

/-- A run of glyphs leads forward. -/
theorem reaches_skipWhile (cursor : Cursor) (keep : Glyph → Bool) :
    cursor.Reaches (cursor.skipWhile keep) :=
  reaches_skipRun keep cursor.rest cursor.offset cursor.row

/-- A run with a first glyph passes it. -/
theorem passes_skipWhile {keep : Glyph → Bool} {glyph : Glyph} {rest : List Glyph}
    (here : cursor.rest = glyph :: rest) (kept : keep glyph = true) :
    cursor.Passes (cursor.skipWhile keep) := by
  refine ⟨glyph, rest, here, ?_⟩
  rw [skipWhile, here, skipRun, if_pos kept]
  exact reaches_skipRun keep rest _ _

/-- Given characters lead forward. -/
theorem reaches_of_literal? {chars : List Char} (found : cursor.literal? chars = some last) :
    cursor.Reaches last := by
  induction chars generalizing cursor with
  | nil =>
    cases found
    exact .refl _
  | cons char chars ih =>
    rw [literal?] at found
    split at found
    · exact (reaches_next cursor).trans (ih found)
    · contradiction

/-- Given characters pass a glyph, if there are any. -/
theorem passes_of_literal? {chars : List Char} (found : cursor.literal? chars = some last)
    (occupied : chars ≠ []) : cursor.Passes last := by
  cases chars with
  | nil => contradiction
  | cons char chars =>
    rw [literal?] at found
    split at found
    · exact (passes_next_of_at? ‹_›).trans (reaches_of_literal? found)
    · contradiction

end Cursor

/-- Every glyph of a source takes bytes. -/
theorem width_pos_of_mem_glyphsOfBytes {bytes : List UInt8} {glyph : Glyph}
    (member : glyph ∈ glyphsOfBytes bytes) : 0 < glyph.width := by
  induction bytes using glyphsOfBytes.induct with
  | case1 => simp [glyphsOfBytes] at member
  | case2 lead rest char extra front ih =>
    rw [glyphsOfBytes, front] at member
    rcases List.mem_cons.mp member with rfl | member
    · exact Nat.succ_pos extra
    · exact ih member
  | case3 lead rest extra front ih =>
    rw [glyphsOfBytes, front] at member
    rcases List.mem_cons.mp member with rfl | member
    · exact Nat.one_pos
    · exact ih member

/-- All glyphs from the start of a source on take bytes. -/
theorem Cursor.solid_start (bytes : List UInt8) : (Cursor.start bytes).Solid :=
  fun _ member => width_pos_of_mem_glyphsOfBytes member

end CodeAtlas
