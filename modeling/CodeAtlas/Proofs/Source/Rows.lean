import CodeAtlas.Proofs.Source.Reach

/-!
# Rows count line feeds

A place divides the bytes of a source into those before it and those that are left to be read. Its
offset is how many are before it, and its row is how many of these are line feeds, so that neither
damaged bytes nor scalars of several bytes disturb the rows: `Cursor.Reaches.divides`.
-/
namespace CodeAtlas

/-- The byte of a line feed. -/
def lineFeed : UInt8 := 0x0a

/-- The row of an offset: the line feeds among the bytes before it. -/
def rowOf (bytes : List UInt8) (offset : Nat) : Nat := (bytes.take offset).count lineFeed

/-- A later offset has no smaller row. -/
theorem rowOf_mono (bytes : List UInt8) {first last : Nat} (ordered : first ≤ last) :
    rowOf bytes first ≤ rowOf bytes last :=
  (List.take_sublist_take_left ordered).count_le lineFeed

/-- No offset has a larger row than there are line feeds. -/
theorem rowOf_le (bytes : List UInt8) (offset : Nat) : rowOf bytes offset ≤ bytes.count lineFeed :=
  (List.take_sublist offset bytes).count_le lineFeed

/-! ## Line feeds in scalars -/

namespace Utf8

/-- A character other than the null character is that of one number only. -/
theorem ofNat_eq_iff {number : Nat} {char : Char} (visible : char ≠ '\x00') :
    Char.ofNat number = char ↔ number = char.toNat := by
  constructor
  · intro same
    by_cases valid : number.isValidChar
    · rw [Char.ofNat, dif_pos valid] at same
      exact congrArg Char.toNat same
    · rw [Char.ofNat, dif_neg valid] at same
      exact absurd same.symm visible
  · rintro rfl
    exact Char.ofNat_toNat char

/-- A byte that continues a scalar is beyond those that are scalars. -/
theorem le_of_continues {byte : UInt8} (found : continues byte = true) : 0x80 ≤ byte.toNat := by
  simp only [continues, Bool.and_eq_true, decide_eq_true_eq, UInt8.le_iff_toNat_le] at found
  exact found.1

/-- The second byte of a scalar is beyond those as well, and has a payload if the first has none. -/
theorem le_of_admits {lead byte : UInt8} (found : admits lead byte = true) :
    0x80 ≤ byte.toNat ∧ byte.toNat < 0xc0 ∧ (lead.toNat = 0xe0 → 0xa0 ≤ byte.toNat) ∧
      (lead.toNat = 0xf0 → 0x90 ≤ byte.toNat) := by
  simp only [admits, secondRange, Bool.and_eq_true, decide_eq_true_eq, UInt8.le_iff_toNat_le,
    ← UInt8.toNat_inj] at found
  repeat' split at found
  all_goals simp only [UInt8.reduceToNat] at *
  all_goals omega

/-- A scalar takes no more bytes than there are. -/
theorem extra_le_of_front {lead : UInt8} {rest : List UInt8} {char : Char} {extra : Nat}
    (found : front lead rest = .scalar char extra) : extra ≤ rest.length := by
  unfold front at found
  repeat' split at found
  all_goals cases found
  all_goals simp

/-- A scalar is a single byte, or it is no basic character and all its bytes are beyond such
ones. -/
theorem front_cases {lead : UInt8} {rest : List UInt8} {char : Char} {extra : Nat}
    (found : front lead rest = .scalar char extra) {basic : Char} (visible : basic ≠ '\x00')
    (small : basic.toNat < 0x80) :
    extra = 0 ∧ char = Char.ofNat lead.toNat ∨
      char ≠ basic ∧ ∀ byte ∈ lead :: rest.take extra, 0x80 ≤ byte.toNat := by
  unfold front at found
  simp only [UInt8.lt_iff_toNat_lt, UInt8.reduceToNat] at found
  repeat' split at found
  all_goals cases found
  case isTrue.refl => exact .inl ⟨rfl, rfl⟩
  all_goals
    right
    rw [Ne, ofNat_eq_iff visible]
    simp only [payload, List.take_succ_cons, List.take_zero, List.forall_mem_cons,
      List.not_mem_nil, false_imp_iff, implies_true, and_true]
  · rename_i continued
    have second := le_of_continues continued
    omega
  · rename_i admitted continued
    have second := le_of_admits (by simpa using admitted)
    have third := le_of_continues continued
    omega
  · rename_i admitted continued also
    have second := le_of_admits (by simpa using admitted)
    have third := le_of_continues (by simpa using continued)
    have fourth := le_of_continues also
    omega

/-- The bytes of a scalar have a line feed only if the scalar is one. -/
theorem count_of_front {lead : UInt8} {rest : List UInt8} {char : Char} {extra : Nat}
    (found : front lead rest = .scalar char extra) :
    (lead :: rest.take extra).count lineFeed = if char = '\n' then 1 else 0 := by
  have visible : '\n' ≠ '\x00' := by decide
  rcases front_cases found visible (by decide) with ⟨rfl, rfl⟩ | ⟨other, beyond⟩
  · simp only [List.take_zero, List.count_singleton, ofNat_eq_iff visible, beq_iff_eq,
      ← UInt8.toNat_inj]
    rfl
  · rw [if_neg other, List.count_eq_zero]
    intro member
    exact absurd (beyond lineFeed member) (by decide)

/-- A byte that no scalar begins with is no line feed. -/
theorem ne_lineFeed_of_front {lead : UInt8} {rest : List UInt8} {extra : Nat}
    (found : front lead rest = .damaged extra) : lead ≠ lineFeed := by
  rintro rfl
  have scalar : front lineFeed rest = .scalar '\n' 0 := rfl
  rw [scalar] at found
  contradiction

end Utf8

/-- The glyph of a scalar is a line feed if the scalar is one. -/
theorem Glyph.is_lineFeed (char : Char) (width : Nat) :
    (Glyph.mk char width).is '\n' = true ↔ char = '\n' := by
  simp only [is, Bool.and_eq_true, beq_iff_eq, bne_iff_ne, and_iff_left_iff_imp]
  rintro rfl same
  have plain : '\n' = Utf8.replacement := congrArg Glyph.char same
  exact absurd plain (by decide)

/-! ## Places among bytes -/

namespace Cursor

/-- A place divides bytes into those before it and those that are left to be read. -/
def Divides (bytes : List UInt8) (cursor : Cursor) : Prop :=
  ∃ before rest, bytes = before ++ rest ∧ cursor.rest = glyphsOfBytes rest ∧
    cursor.offset = before.length ∧ cursor.row = before.count lineFeed

variable {bytes : List UInt8} {cursor last : Cursor}

/-- The start of a source has all bytes left. -/
theorem divides_start (bytes : List UInt8) : (start bytes).Divides bytes :=
  ⟨[], bytes, rfl, rfl, rfl, rfl⟩

/-- Stepping over a glyph goes on to a place behind its bytes. -/
theorem Divides.after (divides : cursor.Divides bytes) {glyph : Glyph} {rest : List Glyph}
    (here : cursor.rest = glyph :: rest) : (cursor.after glyph rest).Divides bytes := by
  obtain ⟨before, left, rfl, glyphs, offset, row⟩ := divides
  rw [glyphs] at here
  cases left with
  | nil => simp [glyphsOfBytes] at here
  | cons lead left =>
    rw [glyphsOfBytes] at here
    cases front : Utf8.front lead left with
    | scalar char extra =>
      rw [front] at here
      obtain ⟨rfl, rfl⟩ := List.cons.inj here
      have within := Utf8.extra_le_of_front front
      refine ⟨before ++ lead :: left.take extra, left.drop extra, ?_, rfl, ?_, ?_⟩
      · rw [List.append_assoc, List.cons_append, List.take_append_drop]
      · simp only [Cursor.after, offset, List.length_append, List.length_cons, List.length_take]
        omega
      · simp only [Cursor.after, row, List.count_append, Utf8.count_of_front front,
          Glyph.is_lineFeed]
    | damaged extra =>
      rw [front] at here
      obtain ⟨rfl, rfl⟩ := List.cons.inj here
      have other := Utf8.ne_lineFeed_of_front front
      refine ⟨before ++ [lead], left, by simp, rfl, ?_, ?_⟩
      · simp [Cursor.after, offset, Glyph.damaged]
      · simp [Cursor.after, row, other, Glyph.is]

/-- Every place of a source divides its bytes. -/
theorem Reaches.divides (reaches : cursor.Reaches last) (divides : cursor.Divides bytes) :
    last.Divides bytes := by
  induction reaches with
  | refl => exact divides
  | step here _ ih => exact ih (divides.after here)

/-- The offset of a place is not behind the last byte. -/
theorem Divides.offset_le (divides : cursor.Divides bytes) : cursor.offset ≤ bytes.length := by
  obtain ⟨before, rest, rfl, _, offset, _⟩ := divides
  rw [offset, List.length_append]
  exact Nat.le_add_right _ _

/-- The row of a place is that of its offset. -/
theorem Divides.row_eq (divides : cursor.Divides bytes) :
    cursor.row = rowOf bytes cursor.offset := by
  obtain ⟨before, rest, rfl, _, offset, row⟩ := divides
  rw [row, rowOf, offset, List.take_left]

end Cursor

end CodeAtlas
