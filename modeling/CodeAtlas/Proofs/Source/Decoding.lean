import CodeAtlas.Proofs.Source.Rows

/-!
# Characters of extents

The bytes of an extent are decoded by themselves. An extent may be cut wherever no byte continues a
scalar (`Utf8.decodeChars_append`), so that the character at each place of a source is among the
characters of the extents around it: `Cursor.Divides.mem_decodeChars`.
-/
namespace CodeAtlas

/-! ## Lists of bytes -/

/-- A list has the bytes that are left of an array, behind those that were taken before. -/
theorem toList_loop_eq (bytes : ByteArray) (index : Nat) (found : List UInt8) :
    ByteArray.toList.loop bytes index found = found.reverse ++ bytes.data.toList.drop index := by
  fun_induction ByteArray.toList.loop bytes index found with
  | case1 index found within ih =>
    have inside : index < bytes.data.toList.length := within
    have here : bytes.get! index = bytes.data.toList[index] := by
      simp [ByteArray.get!, getElem!_pos bytes.data index within]
    rw [ih, List.drop_eq_getElem_cons inside, List.reverse_cons, List.append_assoc, here]
    rfl
  | case2 index found done =>
    have outside : bytes.data.toList.length ≤ index := Nat.le_of_not_lt done
    rw [List.drop_eq_nil_of_le outside, List.append_nil]

/-- The list of an array has its bytes. -/
theorem toList_eq_data (bytes : ByteArray) : bytes.toList = bytes.data.toList :=
  toList_loop_eq bytes 0 []

/-- The bytes between two offsets are those behind the first one, up to the second. -/
theorem toList_extract (bytes : ByteArray) (start stop : Nat) :
    (bytes.extract start stop).toList = (bytes.toList.drop start).take (stop - start) := by
  rw [toList_eq_data, toList_eq_data, ByteArray.data_extract, Array.toList_extract, List.extract]

/-! ## Cutting bytes -/

namespace Utf8

variable {lead : UInt8} {front_ back rest : List UInt8}

/-- Bytes begin anew where no byte continues a scalar. -/
def Anew (bytes : List UInt8) : Prop := ∀ byte ∈ bytes.head?, continues byte = false

/-- A byte that no scalar goes on with is not the second one of a scalar. -/
theorem admits_eq_false {byte : UInt8} (anew : continues byte = false) :
    admits lead byte = false := by
  cases admitted : admits lead byte with
  | false => rfl
  | true =>
    have bounds := le_of_admits admitted
    simp only [continues, Bool.and_eq_false_iff, decide_eq_false_iff_not,
      UInt8.le_iff_toNat_le, UInt8.reduceToNat] at anew
    omega

/-- What stands at the front of bytes does not go on where bytes begin anew. -/
theorem front_append (anew : Anew back) : front lead (rest ++ back) = front lead rest := by
  cases back with
  | nil => rw [List.append_nil]
  | cons byte back =>
    have breaks : continues byte = false := anew byte rfl
    have refused : admits lead byte = false := admits_eq_false breaks
    -- No scalar has more than three bytes behind the first.
    rcases rest with _ | ⟨second, _ | ⟨third, _ | ⟨fourth, rest⟩⟩⟩
    · rcases back with _ | ⟨next, _ | ⟨last, back⟩⟩ <;> simp [front, breaks, refused]
    · cases admitted : admits lead second <;> cases back <;> simp [front, breaks, admitted]
    · cases admitted : admits lead second <;> cases continued : continues third <;>
        simp [front, breaks, admitted, continued]
    · rfl

/-- What stands at the front of bytes takes no more of them than there are. -/
theorem extra_le_of_damaged {extra : Nat} (found : front lead rest = .damaged extra) :
    extra ≤ rest.length := by
  unfold front at found
  repeat' split at found
  all_goals cases found
  all_goals simp

/-- A scalar is decoded to its character. -/
theorem decodeChars_of_scalar {char : Char} {extra : Nat}
    (found : front lead rest = .scalar char extra) :
    decodeChars (lead :: rest) = char :: decodeChars (rest.drop extra) := by
  rw [decodeChars, found]

/-- Damaged bytes are decoded to the character that stands for them. -/
theorem decodeChars_of_damaged {extra : Nat} (found : front lead rest = .damaged extra) :
    decodeChars (lead :: rest) = replacement :: decodeChars (rest.drop extra) := by
  rw [decodeChars, found]

/-- Bytes are decoded part by part, if each part begins anew. -/
theorem decodeChars_append (anew : Anew back) (before : List UInt8) :
    decodeChars (before ++ back) = decodeChars before ++ decodeChars back := by
  induction before using decodeChars.induct with
  | case1 => rw [decodeChars, List.nil_append, List.nil_append]
  | case2 lead rest char extra found ih =>
    have whole : front lead (rest ++ back) = .scalar char extra := (front_append anew).trans found
    rw [List.cons_append, decodeChars_of_scalar whole, decodeChars_of_scalar found,
      List.drop_append_of_le_length (extra_le_of_front found), ih, List.cons_append]
  | case3 lead rest extra found ih =>
    have whole : front lead (rest ++ back) = .damaged extra := (front_append anew).trans found
    rw [List.cons_append, decodeChars_of_damaged whole, decodeChars_of_damaged found,
      List.drop_append_of_le_length (extra_le_of_damaged found), ih, List.cons_append]

/-- A scalar is found by its own bytes, whatever stands behind them. -/
theorem front_take_append {char : Char} {extra : Nat} (found : front lead rest = .scalar char extra)
    (others : List UInt8) : front lead (rest.take extra ++ others) = .scalar char extra := by
  unfold front at found
  repeat' split at found
  all_goals cases found
  all_goals simp only [List.take_succ_cons, List.take_zero, List.cons_append, List.nil_append,
    front, *, if_true, if_false, Bool.false_eq_true]

/-- The first byte of a scalar begins anew. -/
theorem anew_of_front {char : Char} {extra : Nat} (found : front lead rest = .scalar char extra)
    (others : List UInt8) : Anew (lead :: others) := by
  rintro _ ⟨⟩
  cases continued : continues lead with
  | false => rfl
  | true =>
    simp only [continues, Bool.and_eq_true, decide_eq_true_eq, UInt8.le_iff_toNat_le,
      UInt8.reduceToNat] at continued
    simp only [front, UInt8.lt_iff_toNat_lt, UInt8.reduceToNat] at found
    rw [if_neg (by omega), if_pos (by omega)] at found
    contradiction

/-- A basic byte is a scalar by itself. -/
theorem front_of_lt (basic : lead < 0x80) (rest : List UInt8) :
    front lead rest = .scalar (Char.ofNat lead.toNat) 0 := if_pos basic

/-- A basic character is that of one basic byte. -/
theorem lead_of_front {basic : Char} {extra : Nat} (found : front lead rest = .scalar basic extra)
    (visible : basic ≠ '\x00') (small : basic.toNat < 0x80) :
    extra = 0 ∧ basic = Char.ofNat lead.toNat ∧ lead < 0x80 := by
  obtain ⟨single, same⟩ := (front_cases found visible small).resolve_right fun other => other.1 rfl
  refine ⟨single, same, ?_⟩
  rw [eq_comm, ofNat_eq_iff visible] at same
  rw [UInt8.lt_iff_toNat_lt, same]
  exact small

end Utf8

/-! ## Characters at places -/

namespace Cursor

variable {bytes : List UInt8} {cursor : Cursor} {char : Char}

/-- A place with a character has the bytes of a scalar in front. -/
theorem Divides.exists_front (divides : cursor.Divides bytes) (here : cursor.char? = some char) :
    ∃ lead rest extra, bytes.drop cursor.offset = lead :: rest ∧
      Utf8.front lead rest = .scalar char extra ∧
      cursor.next.offset = cursor.offset + (extra + 1) := by
  obtain ⟨before, left, rfl, glyphs, offset, _⟩ := divides
  rw [offset, List.drop_left]
  cases left with
  | nil => simp [char?, glyphs, glyphsOfBytes] at here
  | cons lead rest =>
    rw [glyphsOfBytes] at glyphs
    cases front : Utf8.front lead rest with
    | scalar found extra =>
      rw [front] at glyphs
      refine ⟨lead, rest, extra, rfl, ?_, ?_⟩
      · rw [char?, glyphs] at here
        dsimp only at here
        split at here
        · contradiction
        · rw [front, Option.some.inj here]
      · rw [next, glyphs]
        exact congrArg (· + (extra + 1)) offset
    | damaged extra =>
      rw [front] at glyphs
      simp [char?, glyphs] at here

/-- The character at a place is among those of each extent that has it inside. -/
theorem Divides.mem_decodeChars (divides : cursor.Divides bytes) (here : cursor.char? = some char)
    {start stop : Nat} (before : start ≤ cursor.offset) (after : cursor.next.offset ≤ stop) :
    char ∈ Utf8.decodeChars ((bytes.drop start).take (stop - start)) := by
  obtain ⟨lead, rest, extra, left, front, next⟩ := divides.exists_front here
  have count : stop - start = (cursor.offset - start) + ((stop - cursor.offset - 1) + 1) := by omega
  rw [count, List.take_add, List.drop_drop, Nat.add_sub_cancel' before, left, List.take_succ_cons,
    Utf8.decodeChars_append (Utf8.anew_of_front front _)]
  -- The bytes of the scalar are all inside, so that it is found without those behind.
  have inside : stop - cursor.offset - 1 = extra + (stop - cursor.offset - 1 - extra) := by omega
  have whole : Utf8.front lead (rest.take (stop - cursor.offset - 1)) = .scalar char extra := by
    rw [inside, List.take_add]
    exact Utf8.front_take_append front _
  rw [Utf8.decodeChars_of_scalar whole]
  exact List.mem_append_right _ (.head _)

variable {basic : Char}

/-- A basic character at a place is the first of each extent that begins there. -/
theorem Divides.decodeChars_of_at? (divides : cursor.Divides bytes)
    (here : cursor.at? basic = true) (visible : basic ≠ '\x00') (small : basic.toNat < 0x80)
    {stop : Nat} (after : cursor.offset < stop) :
    cursor.next.offset = cursor.offset + 1 ∧
      Utf8.decodeChars ((bytes.drop cursor.offset).take (stop - cursor.offset)) =
        basic :: Utf8.decodeChars
          ((bytes.drop cursor.next.offset).take (stop - cursor.next.offset)) := by
  obtain ⟨lead, rest, extra, left, front, next⟩ := divides.exists_front (beq_iff_eq.mp here)
  obtain ⟨rfl, same, low⟩ := Utf8.lead_of_front front visible small
  have count : stop - cursor.offset = (stop - (cursor.offset + 1)) + 1 := by omega
  have tail : bytes.drop (cursor.offset + 1) = rest := by
    rw [← List.drop_drop, left, List.drop_one, List.tail_cons]
  refine ⟨next, ?_⟩
  rw [next, left, count, List.take_succ_cons,
    Utf8.decodeChars_of_scalar (Utf8.front_of_lt low _), ← same, tail]
  rfl

/-- An extent begins with a basic character only where one is. -/
theorem Divides.at?_of_decodeChars (divides : cursor.Divides bytes) (visible : basic ≠ '\x00')
    (small : basic.toNat < 0x80) {count : Nat}
    (first : (Utf8.decodeChars ((bytes.drop cursor.offset).take count)).head? = some basic) :
    cursor.at? basic = true := by
  obtain ⟨before, left, rfl, glyphs, offset, _⟩ := divides
  rw [offset, List.drop_left] at first
  cases left with
  | nil => simp [Utf8.decodeChars] at first
  | cons lead rest =>
    cases count with
    | zero => simp [Utf8.decodeChars] at first
    | succ count =>
      have other : Utf8.replacement ≠ basic := by
        rintro rfl
        exact absurd small (by decide)
      rw [List.take_succ_cons] at first
      cases front : Utf8.front lead (rest.take count) with
      | damaged extra =>
        rw [Utf8.decodeChars_of_damaged front] at first
        exact absurd (Option.some.inj first) other
      | scalar found extra =>
        rw [Utf8.decodeChars_of_scalar front] at first
        obtain rfl := Option.some.inj first
        obtain ⟨rfl, same, low⟩ := Utf8.lead_of_front front visible small
        rw [glyphsOfBytes, Utf8.front_of_lt low rest, ← same] at glyphs
        have whole : (⟨found, 0 + 1⟩ : Glyph) ≠ Glyph.damaged := fun damaged =>
          other (congrArg Glyph.char damaged).symm
        rw [at?, char?, glyphs]
        simp [whole]

end Cursor

end CodeAtlas
