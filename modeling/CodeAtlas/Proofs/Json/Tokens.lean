import Mathlib.Tactic.SplitIfs
import CodeAtlas.Json.Printer
import CodeAtlas.Json.Reader

/-!
# Strings and integers read back

What the printer writes inside quotes, escaped or not, is read as the same characters:
`readString_writeChars`. The decimals of an integer that is short enough are read as the integer,
unless something follows that a number could go on with: `readNumber_toDigits`.
-/
namespace CodeAtlas.Json

/-! ## Characters -/

/-- A digit in base sixteen reads back. -/
theorem hexValue?_digitChar : ∀ digit < 16, hexValue? (Nat.digitChar digit) = some digit := by
  decide

/-- A code has four digits in base sixteen. -/
@[simp]
theorem length_hex4 (code : Nat) : (hex4 code).length = 4 := rfl

/-- Four digits in base sixteen read back. -/
theorem code4?_hex4 (code : Nat) (small : code < 0x10000) (rest : List Char) :
    code4? (hex4 code ++ rest) = some (code, rest) := by
  have digit (place : Nat) : hexValue? (Nat.digitChar (place % 16)) = some (place % 16) :=
    hexValue?_digitChar _ (Nat.mod_lt _ (by decide))
  have value : code / 4096 % 16 * 4096 + code / 256 % 16 * 256 + code / 16 % 16 * 16 + code % 16 =
      code := by omega
  simp [hex4, code4?, digit, value]

/-- The escape of a character from the basic plane reads as the character. -/
theorem readString_unitEscape_basic {start fuel place : Nat} {char : Char} {rest found : List Char}
    (basic : char.toNat < 0x10000) (more : rest ≠ []) :
    readString start (fuel + 1) ('\\' :: 'u' :: hex4 char.toNat ++ rest) place found =
      readString start fuel rest (place + 6) (char :: found) := by
  have long : ¬4 + rest.length < 5 := by
    have length := List.length_pos_iff.mpr more
    omega
  have whole : ¬(0xd800 ≤ char.toNat ∧ char.toNat ≤ 0xdbff) ∧
      ¬(0xdc00 ≤ char.toNat ∧ char.toNat ≤ 0xdfff) := by
    have valid := char.valid
    simp only [UInt32.isValidChar, Nat.isValidChar, Char.toNat] at valid ⊢
    omega
  rw [List.cons_append, List.cons_append, readString]
  simp [long, code4?_hex4 _ basic, whole.1, whole.2]

/-- The escape of a character from outside the basic plane reads as the character. -/
theorem readString_unitEscape_high {start fuel place : Nat} {char : Char} {rest found : List Char}
    (high : ¬char.toNat < 0x10000) :
    readString start (fuel + 1)
      ('\\' :: 'u' :: hex4 (0xd800 + (char.toNat - 0x10000) / 1024) ++
        '\\' :: 'u' :: hex4 (0xdc00 + (char.toNat - 0x10000) % 1024) ++ rest) place found =
      readString start fuel rest (place + 12) (char :: found) := by
  have bound : char.toNat < 0x110000 := by
    have valid := char.valid
    simp only [UInt32.isValidChar, Nat.isValidChar] at valid
    simp only [Char.toNat]
    omega
  generalize upper : 0xd800 + (char.toNat - 0x10000) / 1024 = first
  generalize lower : 0xdc00 + (char.toNat - 0x10000) % 1024 = second
  have firstHalf : 0xd800 ≤ first ∧ first ≤ 0xdbff := by omega
  have secondHalf : 0xdc00 ≤ second ∧ second ≤ 0xdfff := by omega
  have joined : 0x10000 + (first - 0xd800) * 1024 + (second - 0xdc00) = char.toNat := by omega
  have long : ¬4 + (4 + rest.length + 1 + 1) < 5 := by omega
  have paired : secondHalf? ('\\' :: 'u' :: (hex4 second ++ rest)) = some (second, rest) := by
    simp [secondHalf?, code4?_hex4 second (by omega), secondHalf]
  simp only [List.cons_append, List.append_assoc]
  rw [readString]
  simp [long, code4?_hex4 first (by omega), firstHalf, paired, joined]

/-- A written character reads as itself, if the string goes on after it. -/
theorem readString_writeChar (ascii : Bool) (start fuel place : Nat) (char : Char)
    {rest : List Char} (found : List Char) (more : rest ≠ []) :
    ∃ after, readString start (fuel + 1) (writeChar ascii char ++ rest) place found =
      readString start fuel rest after (char :: found) := by
  have letter {letter : Char} (code : escaped? letter = some char) :
      ∃ after, readString start (fuel + 1) ('\\' :: letter :: rest) place found =
        readString start fuel rest after (char :: found) := by
    have plain : letter ≠ 'u' := by rintro rfl; contradiction
    refine ⟨place + 2, ?_⟩
    rw [readString.eq_def]
    simp [code]
  unfold writeChar
  split_ifs with quote backslash lineFeed carriageReturn tab backspace formFeed special
  · subst quote; exact letter rfl
  · subst backslash; exact letter rfl
  · subst lineFeed; exact letter rfl
  · subst carriageReturn; exact letter rfl
  · subst tab; exact letter rfl
  · subst backspace; exact letter rfl
  · subst formFeed; exact letter rfl
  · unfold unitEscape
    dsimp only
    split_ifs with basic
    · exact ⟨_, readString_unitEscape_basic basic more⟩
    · exact ⟨_, readString_unitEscape_high basic⟩
  · have printable : ¬char.toNat < 0x20 := by
      simp only [Bool.or_eq_true, decide_eq_true_eq, not_or] at special
      exact special.1
    refine ⟨place + 1, ?_⟩
    rw [List.singleton_append, readString.eq_def]
    simp [quote, backslash, printable]

/-- A character is written with at least one character. -/
theorem writeChar_ne_nil (ascii : Bool) (char : Char) : writeChar ascii char ≠ [] := by
  unfold writeChar unitEscape
  dsimp only
  split_ifs <;> simp

/-- Written characters are at least as many as the characters themselves. -/
theorem length_le_writeChars (ascii : Bool) (chars : List Char) :
    chars.length ≤ (chars.flatMap (writeChar ascii)).length := by
  induction chars with
  | nil => exact Nat.le_refl 0
  | cons char chars ih =>
    have some := List.length_pos_iff.mpr (writeChar_ne_nil ascii char)
    simp only [List.flatMap_cons, List.length_append, List.length_cons]
    omega

/-- Written characters read as themselves up to the closing quote. -/
theorem readString_writeChars (ascii : Bool) (start : Nat) (rest chars : List Char) :
    ∀ (fuel place : Nat) (found : List Char), chars.length < fuel →
      ∃ after, readString start fuel (chars.flatMap (writeChar ascii) ++ '"' :: rest) place found =
        .ok (String.ofList (found.reverse ++ chars), ⟨rest, after⟩) := by
  induction chars with
  | nil =>
    intro fuel place found enough
    obtain ⟨fuel, rfl⟩ := Nat.exists_eq_succ_of_ne_zero (Nat.ne_of_gt enough)
    refine ⟨place + 1, ?_⟩
    rw [List.flatMap_nil, List.nil_append, readString.eq_def]
    simp
  | cons char chars ih =>
    intro fuel place found enough
    obtain ⟨fuel, rfl⟩ := Nat.exists_eq_succ_of_ne_zero (Nat.ne_of_gt (Nat.zero_lt_of_lt enough))
    have more : chars.flatMap (writeChar ascii) ++ '"' :: rest ≠ [] := by simp
    obtain ⟨middle, first⟩ := readString_writeChar ascii start fuel place char found more
    obtain ⟨after, others⟩ := ih fuel middle (char :: found) (Nat.lt_of_succ_lt_succ enough)
    refine ⟨after, ?_⟩
    rw [List.flatMap_cons, List.append_assoc, first, others]
    simp

/-! ## Integers -/

/-- A decimal digit is read as a digit of its value. -/
theorem digitChar_decimal : ∀ digit < 10, isDigit (Nat.digitChar digit) = true ∧
    (Nat.digitChar digit).toNat - '0'.toNat = digit ∧ (Nat.digitChar digit = '0' → digit = 0) := by
  decide

/-- The decimals of a number are digits. -/
theorem isDigit_of_mem_toDigits {value : Nat} {char : Char}
    (member : char ∈ Nat.toDigits 10 value) : isDigit char = true := by
  have digit := Nat.isDigit_of_mem_toDigits (by decide) (by decide) member
  simpa [isDigit, Char.isDigit, Char.le_def] using digit

/-- The decimals of a number have its value. -/
theorem decimalFrom_toDigits (value : Nat) : decimalFrom 0 (Nat.toDigits 10 value) = value := by
  by_cases small : value < 10
  · rw [Nat.toDigits_of_lt_base small]
    simpa [decimalFrom] using (digitChar_decimal value small).2.1
  · have front := decimalFrom_toDigits (value / 10)
    have last := (digitChar_decimal (value % 10) (Nat.mod_lt _ (by decide))).2.1
    have split : value / 10 * 10 + value % 10 = value := by omega
    unfold decimalFrom at front ⊢
    rw [Nat.toDigits_of_base_le (by decide) (Nat.le_of_not_lt small), List.foldl_append, front,
      List.foldl_cons, List.foldl_nil, last, split]
termination_by value

/-- The decimals of a number begin with a digit, which is a zero only for zero. -/
theorem toDigits_head (value : Nat) :
    ∃ digit digits, Nat.toDigits 10 value = digit :: digits ∧ isDigit digit = true ∧
      (digit = '0' → value = 0 ∧ digits = []) := by
  by_cases small : value < 10
  · obtain ⟨isDigit, _, zero⟩ := digitChar_decimal value small
    exact ⟨_, [], Nat.toDigits_of_lt_base small, isDigit, fun same => ⟨zero same, rfl⟩⟩
  · obtain ⟨digit, digits, front, isDigit, zero⟩ := toDigits_head (value / 10)
    refine ⟨digit, digits ++ [(value % 10).digitChar], ?_, isDigit, ?_⟩
    · rw [Nat.toDigits_of_base_le (by decide) (Nat.le_of_not_lt small), front, List.cons_append]
    · intro same
      have := (zero same).1
      omega
termination_by value

/-- A number does not go on with these characters. -/
def EndsNumber (rest : List Char) : Prop :=
  ∀ char ∈ rest.head?, isDigit char = false ∧ char ≠ '.' ∧ char ≠ 'e' ∧ char ≠ 'E'

/-- The digits at the front of a text are those of a number that ends there. -/
theorem spanDigits_append {digits rest : List Char}
    (allDigits : ∀ digit ∈ digits, isDigit digit = true) (ends : EndsNumber rest) :
    spanDigits (digits ++ rest) = (digits, rest) := by
  have stops : rest.takeWhile isDigit = [] ∧ rest.dropWhile isDigit = rest := by
    cases rest with
    | nil => exact ⟨rfl, rfl⟩
    | cons char rest =>
      have other := (ends char rfl).1
      simp [other]
  rw [spanDigits, List.takeWhile_append_of_pos allDigits, List.dropWhile_append_of_pos allDigits,
    stops.1, stops.2, List.append_nil]

/-- The whole part of the decimals of a number is all of them. -/
theorem wholePart?_toDigits (value : Nat) {rest : List Char} (ends : EndsNumber rest) :
    wholePart? (Nat.toDigits 10 value ++ rest) = some (Nat.toDigits 10 value, rest) := by
  obtain ⟨digit, digits, split, isDigit, zero⟩ := toDigits_head value
  have spanned := spanDigits_append (fun _ => @isDigit_of_mem_toDigits value _) ends
  rw [split] at spanned ⊢
  by_cases leading : digit = '0'
  · obtain ⟨rfl, rfl⟩ := zero leading
    rw [leading]
    rfl
  · rw [List.cons_append] at spanned ⊢
    rw [wholePart?]
    · simp [isDigit, spanned]
    · simpa using leading

/-- The decimals of an integer are read as the integer, with the sign that was read before them,
unless they are too many. -/
theorem readNumber_decimals (start place : Nat) (negative : Bool) (value : Nat) {rest : List Char}
    (ends : EndsNumber rest) :
    readNumber start negative (Nat.toDigits 10 value ++ rest) place =
      if digitLimit < (Nat.toDigits 10 value).length then
        .error (.longInteger (Nat.toDigits 10 value).length)
      else
        .ok (.int (if negative then -(value : Int) else value),
          ⟨rest, place + (Nat.toDigits 10 value).length⟩) := by
  have noFraction : fractionPart? rest = none := by
    cases rest with
    | nil => rfl
    | cons char rest =>
      have other := (ends char rfl).2.1
      rw [fractionPart?]
      simpa using other
  have noExponent : exponentPart? rest = none := by
    cases rest with
    | nil => rfl
    | cons char rest =>
      obtain ⟨_, _, small, large⟩ := ends char rfl
      simp [exponentPart?, small, large]
  simp [readNumber, wholePart?_toDigits value ends, noFraction, noExponent, decimalFrom_toDigits]

/-- A short integer reads as itself, with the sign that was read before it. -/
theorem readNumber_toDigits (start place : Nat) (negative : Bool) {value : Nat} {rest : List Char}
    (short : (Nat.toDigits 10 value).length ≤ digitLimit) (ends : EndsNumber rest) :
    ∃ after, readNumber start negative (Nat.toDigits 10 value ++ rest) place =
      .ok (.int (if negative then -(value : Int) else value), ⟨rest, after⟩) :=
  ⟨_, by rw [readNumber_decimals start place negative value ends, if_neg (Nat.not_lt.mpr short)]⟩

end CodeAtlas.Json
