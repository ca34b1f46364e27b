import CodeAtlas.Json.Reader
import Mathlib.Data.List.Basic

/-!
# What stops a reader

A reader goes forward through its text and stops at a fault of the text or at one of its limits. It
names a limit only where the text exceeds it: `read_error_due` finds the digits or the opening
brackets that are too many. What begins like an object is read as one, if it is read at all:
`exists_fields_of_read`.
-/
namespace CodeAtlas.Json

/-- Whether a character opens a list or an object. -/
def opens (char : Char) : Bool := char = '[' || char = '\x7b'

/-- So many digits stand in a row in a text. -/
def HasDigits (text : List Char) (count : Nat) : Prop :=
  ∃ digits, digits <:+: text ∧ digits.length = count ∧ ∀ digit ∈ digits, isDigit digit = true

/-- An error is due to a text in which so many levels may be nested: an integer with too many
digits stands in it, or more lists and objects are opened than there are levels. -/
def ReadError.DueTo (depth : Nat) (text : List Char) : ReadError → Prop
  | .syntaxFault _ _ => True
  | .longInteger count => digitLimit < count ∧ HasDigits text count
  | .tooDeep _ => depth < text.countP opens

/-- An error names a limit, and no fault of the text. -/
def ReadError.AtLimit : ReadError → Prop
  | .syntaxFault _ _ => False
  | _ => True

/-- What a reader says is founded on a text: an end of the text is left, or the error is due to
it. -/
def Founded {α : Type} (depth : Nat) (text : List Char) : Read α → Prop
  | .ok (_, input) => input.rest <:+ text
  | .error error => error.DueTo depth text

section

variable {α : Type} {depth place : Nat} {text larger : List Char} {outcome : Read α}

/-- An error that is due to the end of a text is due to the text. -/
theorem ReadError.DueTo.mono {error : ReadError} (due : error.DueTo depth text)
    (suffix : text <:+ larger) : error.DueTo depth larger := by
  cases error with
  | syntaxFault fault place => trivial
  | longInteger count =>
    obtain ⟨long, digits, inside, digitsOnly⟩ := due
    exact ⟨long, digits, inside.trans suffix.isInfix, digitsOnly⟩
  | tooDeep inObject => exact Nat.lt_of_lt_of_le due suffix.sublist.countP_le

/-- What is founded on the end of a text is founded on the text. -/
theorem Founded.mono (founded : Founded depth text outcome) (suffix : text <:+ larger) :
    Founded depth larger outcome := by
  cases outcome with
  | ok result => exact List.IsSuffix.trans founded suffix
  | error error => exact ReadError.DueTo.mono founded suffix

/-- What is founded on a text inside brackets is founded on the text with the opening one, where one
more level may be nested. -/
theorem Founded.nested {char : Char} (founded : Founded depth text outcome)
    (suffix : text <:+ larger) (opening : opens char = true) :
    Founded (depth + 1) (char :: larger) outcome := by
  have behind := suffix.trans (List.suffix_cons char larger)
  cases outcome with
  | ok result => exact List.IsSuffix.trans founded behind
  | error error =>
    cases error with
    | tooDeep inObject =>
      have inner : depth < larger.countP opens :=
        Nat.lt_of_lt_of_le founded suffix.sublist.countP_le
      simpa [Founded, ReadError.DueTo, List.countP_cons, opening] using inner
    | syntaxFault fault place => trivial
    | longInteger count =>
      obtain ⟨long, digits, inside, isDigit⟩ := founded
      exact ⟨long, digits, inside.trans behind.isInfix, isDigit⟩

/-! ## Blanks and strings -/

/-- Skipping blanks leaves an end of the text. -/
theorem skipBlanks_suffix (text : List Char) (place : Nat) :
    (skipBlanks text place).rest <:+ text := by
  induction text generalizing place with
  | nil => exact List.suffix_refl []
  | cons char text ih =>
    rw [skipBlanks]
    split
    · exact (ih (place + 1)).trans (List.suffix_cons char text)
    · exact List.suffix_refl _

/-- What follows a mark after blanks is an end of the text. -/
theorem suffix_of_mark {after : List Char} {mark : Char}
    (marked : (skipBlanks text place).rest = mark :: after) : after <:+ text :=
  (List.suffix_cons mark after).trans (marked ▸ skipBlanks_suffix text place)

/-- What follows a code is an end of the text. -/
theorem code4?_suffix {code : Nat} {rest : List Char} (written : code4? text = some (code, rest)) :
    rest <:+ text := by
  unfold code4? at written
  split at written
  · rename_i first second third fourth after
    simp only [Option.bind_eq_bind, Option.bind_eq_some_iff, Option.some.injEq,
      Prod.mk.injEq] at written
    obtain ⟨_, _, _, _, _, _, _, _, _, rfl⟩ := written
    exact ⟨[first, second, third, fourth], rfl⟩
  · contradiction

/-- What follows the second half of a pair is an end of the text. -/
theorem secondHalf?_suffix {code : Nat} {rest : List Char}
    (written : secondHalf? text = some (code, rest)) : rest <:+ text := by
  unfold secondHalf? at written
  split at written
  · split at written
    · rename_i digits second after found
      split at written
      · obtain ⟨rfl, rfl⟩ := written
        exact (code4?_suffix found).trans ⟨['\\', 'u'], rfl⟩
      · contradiction
    · contradiction
  · contradiction

/-- A string is read up to an end of the text and meets no limit. -/
theorem readString_founded (depth start fuel : Nat) (text : List Char) (place : Nat)
    (found : List Char) : Founded depth text (readString start fuel text place found) := by
  fun_induction readString start fuel text place found with
  | case3 fuel rest => exact List.suffix_cons _ rest
  | case7 fuel place found digits _ code after first _ second rest paired char _ ih =>
    exact ih.mono ((secondHalf?_suffix paired).trans
      ((code4?_suffix first).trans ⟨['\\', 'u'], rfl⟩))
  | case8 fuel place found digits _ code after first _ _ _ ih =>
    exact ih.mono ((code4?_suffix first).trans ⟨['\\', 'u'], rfl⟩)
  | case9 fuel place found digits _ code after first _ char _ ih =>
    exact ih.mono ((code4?_suffix first).trans ⟨['\\', 'u'], rfl⟩)
  | case10 fuel place found letter rest _ char _ _ ih => exact ih.mono ⟨['\\', letter], rfl⟩
  | case13 fuel char rest _ _ _ _ _ ih => exact ih.mono (List.suffix_cons char rest)
  | _ => trivial

/-! ## Numbers -/

/-- What follows digits is an end of the text. -/
theorem spanDigits_suffix (text : List Char) : (spanDigits text).2 <:+ text :=
  List.dropWhile_suffix isDigit

/-- The whole part of a number is the front of the text and has digits only. -/
theorem append_of_wholePart? {whole rest : List Char}
    (split : wholePart? text = some (whole, rest)) :
    whole ++ rest = text ∧ ∀ digit ∈ whole, isDigit digit = true := by
  unfold wholePart? at split
  split at split
  · obtain ⟨rfl, rfl⟩ := split
    exact ⟨rfl, List.forall_mem_singleton.mpr rfl⟩
  · split at split
    · obtain ⟨rfl, rfl⟩ := split
      refine ⟨List.takeWhile_append_dropWhile, fun digit member => ?_⟩
      exact List.all_eq_true.mp List.all_takeWhile digit member
    · contradiction
  · contradiction

/-- What follows a fraction is an end of the text. -/
theorem fractionPart?_suffix {digits rest : List Char}
    (split : fractionPart? text = some (digits, rest)) : rest <:+ text := by
  unfold fractionPart? at split
  split at split
  · rename_i after
    dsimp only at split
    split at split
    · contradiction
    · obtain ⟨rfl, rfl⟩ := split
      exact (spanDigits_suffix after).trans (List.suffix_cons '.' after)
  · contradiction

/-- What follows an exponent is an end of the text. -/
theorem exponentPart?_suffix {down : Bool} {digits rest : List Char} {marks : Nat}
    (split : exponentPart? text = some (down, digits, rest, marks)) : rest <:+ text := by
  unfold exponentPart? at split
  split at split
  · rename_i mark after
    split at split
    · split at split
      rename_i negative unsigned marks signed
      have behind : unsigned <:+ after := by
        split at signed <;> obtain ⟨rfl, rfl, rfl⟩ := signed
        · exact List.suffix_cons '-' _
        · exact List.suffix_cons '+' _
        · exact List.suffix_refl _
      dsimp only at split
      split at split
      · contradiction
      · obtain ⟨rfl, rfl, rfl, rfl⟩ := split
        exact ((spanDigits_suffix unsigned).trans behind).trans (List.suffix_cons mark after)
    · contradiction
  · contradiction

/-- A number is read up to an end of the text, unless it is an integer with too many digits. -/
theorem readNumber_founded (start place : Nat) (negative : Bool) :
    Founded depth text (readNumber start negative text place) := by
  unfold readNumber
  cases whole : wholePart? text with
  | none => trivial
  | some parts =>
    obtain ⟨digits, rest⟩ := parts
    obtain ⟨rfl, isDigit⟩ := append_of_wholePart? whole
    have behind : rest <:+ digits ++ rest := List.suffix_append digits rest
    have long (excess : digitLimit < digits.length) :
        (ReadError.longInteger digits.length).DueTo depth (digits ++ rest) :=
      ⟨excess, digits, (List.prefix_append digits rest).isInfix, rfl, isDigit⟩
    cases fraction : fractionPart? rest with
    | some parts =>
      obtain ⟨decimals, others⟩ := parts
      have further := (fractionPart?_suffix fraction).trans behind
      cases exponent : exponentPart? others with
      | some parts =>
        simp only [fraction, exponent]
        exact (exponentPart?_suffix exponent).trans further
      | none =>
        simp only [fraction, exponent]
        split
        · split
          · rename_i excess
            exact long excess
          · exact further
        · exact further
    | none =>
      cases exponent : exponentPart? rest with
      | some parts =>
        simp only [fraction, exponent]
        exact (exponentPart?_suffix exponent).trans behind
      | none =>
        simp only [fraction, exponent, List.isEmpty_nil, ↓reduceIte]
        split
        · rename_i excess
          exact long excess
        · exact behind

/-! ## Values -/

/-- A value is read up to an end of the text, if lists and objects of less fuel are. -/
theorem readValue_founded {fuel : Nat}
    (items : ∀ depth input found, Founded depth input.rest (readItems depth fuel input found))
    (fields : ∀ depth input found, Founded depth input.rest (readFields depth fuel input found))
    (depth : Nat) (input : Input) :
    Founded depth input.rest (readValue depth (fuel + 1) input) := by
  obtain ⟨text, place⟩ := input
  rw [readValue.eq_def]
  dsimp only
  split
  · trivial
  · rename_i rest
    have quoted := readString_founded depth place (rest.length + 1) rest (place + 1) []
    have behind := List.suffix_cons '"' rest
    cases read : readString place (rest.length + 1) rest (place + 1) [] with
    | error error => exact (read ▸ quoted).mono behind
    | ok result => exact (read ▸ quoted).mono behind
  · rename_i rest
    cases depth with
    | zero => simp [Founded, ReadError.DueTo, opens]
    | succ depth =>
      dsimp only
      split
      · rename_i closing
        exact (suffix_of_mark closing).trans (List.suffix_cons '\x7b' rest)
      · exact (fields depth _ []).nested (skipBlanks_suffix rest (place + 1)) rfl
  · rename_i rest
    cases depth with
    | zero => simp [Founded, ReadError.DueTo, opens]
    | succ depth =>
      dsimp only
      split
      · rename_i closing
        exact (suffix_of_mark closing).trans (List.suffix_cons '[' rest)
      · exact (items depth _ []).nested (skipBlanks_suffix rest (place + 1)) rfl
  · split
    · exact List.drop_suffix _ text
    · split
      · exact (readNumber_founded place (place + 1) true).mono (List.suffix_cons '-' _)
      · exact readNumber_founded place place false

/-- Items are read up to an end of the text, if values and further items of less fuel are. -/
theorem readItems_founded {fuel : Nat}
    (values : ∀ depth input, Founded depth input.rest (readValue depth fuel input))
    (items : ∀ depth input found, Founded depth input.rest (readItems depth fuel input found))
    (depth : Nat) (input : Input) (found : List Json) :
    Founded depth input.rest (readItems depth (fuel + 1) input found) := by
  rw [readItems.eq_def]
  dsimp only
  have first := values depth input
  cases read : readValue depth fuel input with
  | error error =>
    rw [read] at first
    exact first
  | ok result =>
    obtain ⟨value, left⟩ := result
    rw [read] at first
    have behind : left.rest <:+ input.rest := first
    dsimp only
    split
    · rename_i closing
      exact (suffix_of_mark closing).trans behind
    · rename_i after comma
      have further := (suffix_of_mark comma).trans behind
      exact (items depth _ _).mono ((skipBlanks_suffix after _).trans further)
    · trivial

/-- Fields are read up to an end of the text, if values and further fields of less fuel are. -/
theorem readFields_founded {fuel : Nat}
    (values : ∀ depth input, Founded depth input.rest (readValue depth fuel input))
    (fields : ∀ depth input found, Founded depth input.rest (readFields depth fuel input found))
    (depth : Nat) (input : Input) (found : List (String × Json)) :
    Founded depth input.rest (readFields depth (fuel + 1) input found) := by
  obtain ⟨text, place⟩ := input
  rw [readFields.eq_def]
  dsimp only
  split
  · rename_i rest
    have quote := List.suffix_cons '"' rest
    have quoted := readString_founded depth place (rest.length + 1) rest (place + 1) []
    cases label : readString place (rest.length + 1) rest (place + 1) [] with
    | error error => exact (label ▸ quoted).mono quote
    | ok result =>
      obtain ⟨name, named⟩ := result
      rw [label] at quoted
      have unnamed : named.rest <:+ '"' :: rest := List.IsSuffix.trans quoted quote
      dsimp only
      split
      · rename_i after colon
        have opened := (skipBlanks_suffix after (named.trim.place + 1)).trans
          ((suffix_of_mark colon).trans unnamed)
        have first := (values depth (skipBlanks after (named.trim.place + 1))).mono opened
        cases read : readValue depth fuel (skipBlanks after (named.trim.place + 1)) with
        | error error =>
          rw [read] at first
          exact first
        | ok result =>
          obtain ⟨value, left⟩ := result
          rw [read] at first
          have behind : left.rest <:+ '"' :: rest := first
          dsimp only
          split
          · rename_i closing
            exact (suffix_of_mark closing).trans behind
          · rename_i after comma
            have further := (suffix_of_mark comma).trans behind
            exact (fields depth _ _).mono ((skipBlanks_suffix after _).trans further)
          · trivial
      · trivial
  · trivial

/-- Whatever is read, by induction on the fuel, is founded on the text. -/
theorem readers_founded (fuel : Nat) :
    (∀ depth input, Founded depth input.rest (readValue depth fuel input)) ∧
    (∀ depth input found, Founded depth input.rest (readItems depth fuel input found)) ∧
    (∀ depth input found, Founded depth input.rest (readFields depth fuel input found)) := by
  induction fuel with
  | zero => exact ⟨fun _ _ => trivial, fun _ _ _ => trivial, fun _ _ _ => trivial⟩
  | succ fuel ih =>
    obtain ⟨values, items, fields⟩ := ih
    exact ⟨readValue_founded items fields, readItems_founded values items,
      readFields_founded values fields⟩

/-- What is read of a whole text is the value that is read first. -/
theorem exists_rest_of_read {value : Json} (accepted : read depth text = .ok value) :
    ∃ rest, readValue depth (text.length + 1) (skipBlanks text 0) = .ok (value, rest) := by
  unfold read at accepted
  split at accepted
  · contradiction
  · rename_i first rest outcome
    dsimp only at accepted
    split at accepted
    · obtain rfl := Except.ok.inj accepted
      exact ⟨rest, outcome⟩
    · contradiction

/-- An error of a text is due to the text. -/
theorem read_error_due {error : ReadError} (stopped : read depth text = .error error) :
    error.DueTo depth text := by
  have value := (readers_founded (text.length + 1)).1 depth (skipBlanks text 0)
  unfold read at stopped
  split at stopped
  · rename_i outcome
    obtain rfl := Except.error.inj stopped
    rw [outcome] at value
    exact ReadError.DueTo.mono value (skipBlanks_suffix text 0)
  · dsimp only at stopped
    split at stopped
    · contradiction
    · obtain rfl := Except.error.inj stopped
      trivial

end

/-! ## Objects -/

variable {depth : Nat}

/-- Fields make an object. -/
theorem exists_fields_of_readFields {fuel : Nat} {input rest : Input}
    {found : List (String × Json)} {value : Json}
    (read : readFields depth fuel input found = .ok (value, rest)) :
    ∃ fields, value = .object fields := by
  induction fuel generalizing input found with
  | zero => contradiction
  | succ fuel ih =>
    rw [readFields.eq_def] at read
    dsimp only at read
    split at read
    · split at read
      · contradiction
      · split at read
        · split at read
          · contradiction
          · split at read
            · cases read
              exact ⟨_, rfl⟩
            · exact ih read
            · contradiction
        · contradiction
    · contradiction

/-- What begins like an object is read as one. -/
theorem exists_fields_of_read {text : List Char} {value : Json}
    (accepted : read depth ('\x7b' :: text) = .ok value) : ∃ fields, value = .object fields := by
  obtain ⟨rest, outcome⟩ := exists_rest_of_read accepted
  have settled : skipBlanks ('\x7b' :: text) 0 = ⟨'\x7b' :: text, 0⟩ := rfl
  rw [settled, readValue.eq_def] at outcome
  cases depth with
  | zero => contradiction
  | succ depth =>
    simp only at outcome
    split at outcome
    · cases outcome
      exact ⟨[], rfl⟩
    · exact exists_fields_of_readFields outcome

end CodeAtlas.Json
