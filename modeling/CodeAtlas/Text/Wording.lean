/-!
# Texts from outside

Inside the program a text is a sequence of Unicode characters. A text that comes from outside can
also hold half of a surrogate pair that stands alone, as an escape can write it: a `LooseText`. No
encoding of Unicode has such a half, so a text that holds one cannot be written out. What is taken
in, and the form that it has again, are defined for all types of texts that have those of Unicode
among them: `Wording`.
-/
namespace CodeAtlas

/-- A type of texts that has those of Unicode among them. -/
class Wording (τ : Type) where
  /-- The text of Unicode characters. -/
  ofString : String → τ
  /-- The Unicode characters of a text, if it has nothing else. -/
  unicode? : τ → Option String
  /-- A text is made of the characters that it has. -/
  unicode?_eq_some {text : τ} {plain : String} : unicode? text = some plain ↔ ofString plain = text

namespace Wording

instance : Wording String where
  ofString plain := plain
  unicode? text := some text
  unicode?_eq_some := by simp [eq_comm]

/-- In the texts of the program, Unicode characters are their own text. -/
@[simp]
theorem ofString_string (plain : String) : (ofString plain : String) = plain := rfl

/-- The texts of the program hold Unicode characters only. -/
@[simp]
theorem unicode?_string (text : String) : unicode? text = some text := rfl

/-- A text that was made of Unicode characters has them. -/
@[simp]
theorem unicode?_ofString {τ : Type} [Wording τ] (plain : String) :
    unicode? (ofString plain : τ) = some plain :=
  unicode?_eq_some.mpr rfl

/-- Texts that were made of different characters are different. -/
@[simp]
theorem ofString_inj {τ : Type} [Wording τ] {first second : String} :
    (ofString first : τ) = ofString second ↔ first = second := by
  rw [← unicode?_eq_some, unicode?_ofString, Option.some_inj, eq_comm]

/-- A text that a thing can be named by: Unicode characters, one at least. -/
def IsName {τ : Type} [Wording τ] (text : τ) : Prop := ∃ plain ∈ unicode? text, plain ≠ ""

instance {τ : Type} [Wording τ] (text : τ) : Decidable (IsName text) :=
  inferInstanceAs (Decidable (∃ plain ∈ unicode? text, plain ≠ ""))

/-- A text of Unicode characters is a name if there are any. -/
@[simp]
theorem isName_ofString {τ : Type} [Wording τ] {plain : String} :
    IsName (ofString plain : τ) ↔ plain ≠ "" := by
  simp [IsName]

/-- A text of the program is a name if it is not empty. -/
theorem isName_string {text : String} : IsName text ↔ text ≠ "" := by
  simp [IsName]

end Wording

/-- A sign of a text from outside. -/
inductive Sign where
  /-- A Unicode character. -/
  | unicode (char : Char)
  /-- Half of a surrogate pair that stands alone, by its number among all halves. -/
  | half (number : Fin 2048)
  deriving DecidableEq, Repr

namespace Sign

/-- The character that a sign is, if it is no half of a pair. -/
def char? : Sign → Option Char
  | .unicode char => some char
  | .half _ => none

/-- Signs are all characters just if they are made of characters. -/
theorem mapM_char?_eq_some {signs : List Sign} {chars : List Char} :
    signs.mapM char? = some chars ↔ chars.map unicode = signs := by
  induction signs generalizing chars with
  | nil => simp [eq_comm]
  | cons sign signs ih =>
    cases sign with
    | half number => cases chars <;> simp [List.mapM_cons, char?]
    | unicode char =>
      simp only [List.mapM_cons, char?, Option.bind_eq_bind, Option.bind_some,
        Option.bind_eq_some_iff, Option.pure_def, Option.some_inj, ih]
      constructor
      · rintro ⟨rest, rfl, rfl⟩
        rfl
      · intro made
        obtain ⟨first, rest, rfl, same, made⟩ := List.map_eq_cons_iff.mp made
        exact ⟨rest, made, by rw [Sign.unicode.inj same]⟩

end Sign

/-- A text from outside. -/
structure LooseText where
  /-- Its signs in order. -/
  signs : List Sign
  deriving DecidableEq, Repr

instance : Wording LooseText where
  ofString plain := ⟨plain.toList.map .unicode⟩
  unicode? text := (text.signs.mapM Sign.char?).map String.ofList
  unicode?_eq_some := by
    rintro ⟨signs⟩ plain
    simp only [Option.map_eq_some_iff, Sign.mapM_char?_eq_some, LooseText.mk.injEq]
    constructor
    · rintro ⟨chars, rfl, rfl⟩
      rw [String.toList_ofList]
    · intro made
      exact ⟨plain.toList, made, String.ofList_toList⟩

end CodeAtlas
