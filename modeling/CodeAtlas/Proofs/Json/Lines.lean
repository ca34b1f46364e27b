import CodeAtlas.Proofs.Json.RoundTrip
import CodeAtlas.Text.Removal

/-!
# Lines of written values

A value without floating-point numbers that is written on many lines has no blank line and no
character outside the basic ones, whatever its strings hold: `Regular.unbroken`. So a blank line
after it is the first.
-/
namespace CodeAtlas.Json

open Text (distanceTo?)

/-- A basic character that takes part in a line. -/
def Printable (char : Char) : Prop := 0x20 ≤ char.toNat ∧ char.toNat ≤ 0x7e

instance : DecidablePred Printable := fun char =>
  inferInstanceAs (Decidable (0x20 ≤ char.toNat ∧ char.toNat ≤ 0x7e))

/-- A printable character does not end a line. -/
theorem Printable.ne_lineFeed {char : Char} (printable : Printable char) : char ≠ '\n' := by
  rintro rfl
  exact absurd printable (by decide)

/-! ## Texts without blank lines -/

/-- What a blank line is found by: the end of a line, twice. -/
def blankLine : List Char := ['\n', '\n']

/-- Characters among the basic ones where no blank line begins, whatever comes after them. -/
structure Unbroken (chars : List Char) : Prop where
  /-- They are basic. -/
  basic : ∀ char ∈ chars, char.toNat < 128
  /-- The first blank line is behind them. -/
  passed : ∀ rest, distanceTo? blankLine (chars ++ rest) =
    (distanceTo? blankLine rest).map (· + chars.length)

/-- No characters are unbroken. -/
theorem unbroken_nil : Unbroken [] :=
  ⟨List.forall_mem_nil _, fun rest => by simp⟩

/-- Unbroken characters after unbroken ones are unbroken. -/
theorem Unbroken.append {front back : List Char} (first : Unbroken front) (second : Unbroken back) :
    Unbroken (front ++ back) where
  basic := List.forall_mem_append.mpr ⟨first.basic, second.basic⟩
  passed rest := by
    rw [List.append_assoc, first.passed, second.passed, Option.map_map, List.length_append]
    congr 1
    funext distance
    simp only [Function.comp_apply]
    omega

/-- A character is unbroken before unbroken ones unless both it and the next end a line. -/
theorem Unbroken.cons {char : Char} {chars : List Char} (unbroken : Unbroken chars)
    (basic : char.toNat < 128) (apart : char ≠ '\n' ∨ ∃ next ∈ chars.head?, next ≠ '\n') :
    Unbroken (char :: chars) where
  basic := List.forall_mem_cons.mpr ⟨basic, unbroken.basic⟩
  passed rest := by
    have here : blankLine.isPrefixOf (char :: chars ++ rest) = false := by
      rcases apart with other | ⟨next, head, other⟩
      · simp [blankLine, List.isPrefixOf, other.symm]
      · obtain ⟨tail, rfl⟩ := List.head?_eq_some_iff.mp head
        simp [blankLine, List.isPrefixOf, other.symm]
    rw [List.cons_append] at here ⊢
    rw [distanceTo?, here, unbroken.passed, List.length_cons]
    cases distanceTo? blankLine rest <;> simp [Nat.add_assoc]

/-- Printable characters are unbroken. -/
theorem unbroken_of_printable {chars : List Char} (printable : ∀ char ∈ chars, Printable char) :
    Unbroken chars := by
  induction chars with
  | nil => exact unbroken_nil
  | cons char chars ih =>
    obtain ⟨first, others⟩ := List.forall_mem_cons.mp printable
    exact (ih others).cons (Nat.lt_of_le_of_lt first.2 (by decide)) (.inl first.ne_lineFeed)

/-- Characters that are all found to be printable are. -/
theorem printable_of_all {chars : List Char}
    (found : (chars.all fun char => decide (Printable char)) = true) :
    ∀ char ∈ chars, Printable char :=
  fun char member => of_decide_eq_true (List.all_eq_true.mp found char member)

/-- A line break is unbroken before unbroken characters that begin with no end of a line. -/
theorem Unbroken.lineBreak {char : Char} {chars : List Char} (unbroken : Unbroken (char :: chars))
    (layout : Layout) (level : Nat) (other : char ≠ '\n') :
    Unbroken (Json.lineBreak layout level ++ char :: chars) := by
  unfold Json.lineBreak
  cases layout.indent with
  | none => exact unbroken
  | some width =>
    have blanks : Unbroken (List.replicate (width * level) ' ') :=
      unbroken_of_printable fun blank member => by rw [List.eq_of_mem_replicate member]; decide
    refine (blanks.append unbroken).cons (by decide) (.inr ?_)
    cases width * level with
    | zero => exact ⟨char, rfl, other⟩
    | succ count => exact ⟨' ', rfl, by decide⟩

/-- After unbroken characters, a blank line is the first. -/
theorem Unbroken.distanceTo?_blankLine {chars : List Char} (unbroken : Unbroken chars)
    (rest : List Char) :
    distanceTo? blankLine (chars ++ blankLine ++ rest) = some chars.length := by
  have here : distanceTo? blankLine (blankLine ++ rest) = some 0 := by
    simp [blankLine, distanceTo?]
  rw [List.append_assoc, unbroken.passed, here]
  simp

/-! ## Strings -/

/-- The digits in base sixteen are printable. -/
theorem printable_hex4 (code : Nat) : ∀ char ∈ hex4 code, Printable char := by
  have digit : ∀ digit < 16, Printable (Nat.digitChar digit) := by decide
  have each (place : Nat) : Printable (Nat.digitChar (place % 16)) :=
    digit _ (Nat.mod_lt _ (by decide))
  simp [hex4, each]

/-- Escapes are printable. -/
theorem printable_unitEscape (char : Char) : ∀ other ∈ unitEscape char, Printable other := by
  have mark : Printable '\\' ∧ Printable 'u' := by decide
  unfold unitEscape
  dsimp only
  split_ifs
  · exact List.forall_mem_cons.mpr ⟨mark.1, List.forall_mem_cons.mpr ⟨mark.2, printable_hex4 _⟩⟩
  · simp only [List.cons_append, List.forall_mem_cons, List.forall_mem_append]
    exact ⟨mark.1, mark.2, printable_hex4 _, mark.1, mark.2, printable_hex4 _⟩

/-- Where all other characters are escaped, what is written of a character is printable. -/
theorem printable_writeChar (char : Char) : ∀ other ∈ writeChar true char, Printable other := by
  unfold writeChar
  split_ifs with quote backslash lineFeed carriageReturn tab backspace formFeed special
  · exact printable_of_all rfl
  · exact printable_of_all rfl
  · exact printable_of_all rfl
  · exact printable_of_all rfl
  · exact printable_of_all rfl
  · exact printable_of_all rfl
  · exact printable_of_all rfl
  · exact printable_unitEscape char
  · refine List.forall_mem_singleton.mpr ?_
    simp only [Bool.true_and, Bool.or_eq_true, decide_eq_true_eq, not_or] at special
    exact ⟨by omega, by omega⟩

/-- A written string is printable. -/
theorem printable_writeString (text : String) : ∀ char ∈ writeString true text, Printable char := by
  have quote : Printable '"' := by decide
  have inside : ∀ char ∈ text.toList.flatMap (writeChar true), Printable char := by
    intro char member
    obtain ⟨source, _, written⟩ := List.mem_flatMap.mp member
    exact printable_writeChar source char written
  simp only [writeString, List.cons_append, List.forall_mem_cons, List.forall_mem_append]
  exact ⟨quote, inside, quote, List.forall_mem_nil _⟩

/-! ## Values -/

/-- A written integer is printable. -/
theorem printable_write_int (layout : Layout) (level : Nat) (value : Int) :
    ∀ char ∈ write layout level (.int value), Printable char := by
  have digits : ∀ char ∈ Nat.toDigits 10 value.natAbs, Printable char := by
    intro char member
    have digit := Nat.isDigit_of_mem_toDigits (by decide) (by decide) member
    simp only [Char.isDigit, Bool.and_eq_true, decide_eq_true_eq, ge_iff_le] at digit
    have low : 48 ≤ char.toNat := digit.1
    have high : char.toNat ≤ 57 := digit.2
    exact ⟨by omega, by omega⟩
  rw [write_int]
  split_ifs
  · exact List.forall_mem_cons.mpr ⟨by decide, digits⟩
  · exact digits

/-- A regular value that is written on many lines is unbroken at every level. -/
def UnbrokenValue (json : Json) : Prop :=
  Regular json ∧ ∀ level, Unbroken (write .indented level json)

/-- A value on a line of its own is unbroken. -/
theorem UnbrokenValue.lineBreak {json : Json} (unbroken : UnbrokenValue json) (level : Nat) :
    Unbroken (Json.lineBreak .indented level ++ write .indented level json) := by
  obtain ⟨char, rest, written, token, _⟩ := unbroken.1.write_head .indented level
  have value := unbroken.2 level
  rw [written] at value ⊢
  refine value.lineBreak .indented level ?_
  rintro rfl
  contradiction

/-- A name in quotes and the colon after it are unbroken on a line of their own, before a value. -/
theorem UnbrokenValue.field {json : Json} (unbroken : UnbrokenValue json) (name : String)
    (level : Nat) :
    Unbroken (Json.lineBreak .indented level ++ writeString Layout.indented.ascii name ++
      Layout.indented.colon.toList ++ write .indented level json) := by
  have quoted : Unbroken (writeString Layout.indented.ascii name) :=
    unbroken_of_printable (printable_writeString name)
  have colon : Unbroken Layout.indented.colon.toList := unbroken_of_printable (printable_of_all rfl)
  refine Unbroken.append (.append ?_ colon) (unbroken.2 level)
  rw [writeString, List.cons_append] at quoted ⊢
  exact quoted.lineBreak .indented level (by decide)

/-- A closing mark on a line of its own is unbroken. -/
theorem unbroken_close (level : Nat) {mark : Char} (known : mark = ']' ∨ mark = '\x7d') :
    Unbroken (lineBreak .indented level ++ [mark]) := by
  rcases known with rfl | rfl <;>
    exact (unbroken_of_printable (printable_of_all rfl)).lineBreak .indented level (by decide)

/-- Items after the first are unbroken if each of them is. -/
theorem unbroken_writeItems (level : Nat) {items : List Json}
    (each : ∀ item ∈ items, UnbrokenValue item) :
    Unbroken (writeItems .indented level items) := by
  induction items with
  | nil => exact unbroken_nil
  | cons item items ih =>
    obtain ⟨first, others⟩ := List.forall_mem_cons.mp each
    have comma : Unbroken Layout.indented.comma.toList :=
      unbroken_of_printable (printable_of_all rfl)
    have whole := comma.append ((first.lineBreak level).append (ih others))
    simpa only [writeItems, List.append_assoc] using whole

/-- Fields after the first are unbroken if the value of each of them is. -/
theorem unbroken_writeFields (level : Nat) {fields : List (String × Json)}
    (each : ∀ field ∈ fields, UnbrokenValue field.2) :
    Unbroken (writeFields .indented level fields) := by
  induction fields with
  | nil => exact unbroken_nil
  | cons field fields ih =>
    obtain ⟨name, value⟩ := field
    obtain ⟨first, others⟩ := List.forall_mem_cons.mp each
    have comma : Unbroken Layout.indented.comma.toList :=
      unbroken_of_printable (printable_of_all rfl)
    have whole := comma.append ((first.field name level).append (ih others))
    simpa only [writeFields, List.append_assoc] using whole

/-- A regular value that is written on many lines is unbroken at every level. -/
theorem Regular.unbroken {json : Json} (regular : Regular json) (level : Nat) :
    Unbroken (write .indented level json) := by
  induction regular generalizing level with
  | null =>
    rw [write]
    exact unbroken_of_printable (printable_of_all rfl)
  | bool value => cases value <;> rw [write] <;> exact unbroken_of_printable (printable_of_all rfl)
  | string value =>
    rw [write_string]
    exact unbroken_of_printable (printable_writeString value)
  | int value => exact unbroken_of_printable (printable_write_int .indented level value)
  | @array items each ih =>
    cases items with
    | nil =>
      rw [write_array_nil]
      exact unbroken_of_printable (printable_of_all rfl)
    | cons item items =>
      have values : ∀ each ∈ item :: items, UnbrokenValue each :=
        fun other member => ⟨each other member, ih other member⟩
      obtain ⟨first, others⟩ := List.forall_mem_cons.mp values
      have body := ((first.lineBreak (level + 1)).append
        (unbroken_writeItems (level + 1) others)).append (unbroken_close level (.inl rfl))
      have whole := body.cons (by decide) (.inl (by decide : '[' ≠ '\n'))
      simpa only [write_array_cons, List.append_assoc, List.cons_append] using whole
  | @object fields distinct each ih =>
    cases fields with
    | nil =>
      rw [write_object_nil]
      exact unbroken_of_printable (printable_of_all rfl)
    | cons field fields =>
      obtain ⟨name, value⟩ := field
      have values : ∀ each ∈ (name, value) :: fields, UnbrokenValue each.2 :=
        fun other member => ⟨each other member, ih other member⟩
      obtain ⟨first, others⟩ := List.forall_mem_cons.mp values
      have body := ((first.field name (level + 1)).append
        (unbroken_writeFields (level + 1) others)).append (unbroken_close level (.inr rfl))
      have whole := body.cons (by decide) (.inl (by decide : '\x7b' ≠ '\n'))
      simpa only [write_object_cons, List.append_assoc, List.cons_append] using whole

end CodeAtlas.Json
