import CodeAtlas.Decimal.Lenient
import CodeAtlas.Intake.Issue
import CodeAtlas.Json.Basic

/-!
# Taking in JSON values

Lenient readers of the basic types: an integer may also be a truth value, a number without a
fraction or a text that writes it. A field is looked up by the name under which it is sent and
then by its plain name. A text is taken as it is; one that is looked into, for its length or for
the number in it, must hold Unicode characters only.
-/
namespace CodeAtlas.Intake

open Checked

variable {τ : Type}

/-- A text. -/
def text : Json τ → Checked τ
  | .string value => .ok value
  | _ => fail .notText

/-- The characters of a text. -/
def characters [Wording τ] (text : τ) : Checked String :=
  match Wording.unicode? text with
  | some plain => .ok plain
  | none => fail .notUnicode

/-- A text that is not empty. -/
def nonEmptyText [Wording τ] (json : Json τ) : Checked τ := do
  let value ← text json
  let plain ← characters value
  if plain.isEmpty then fail .textTooShort else return value

/-- A value that may be null. -/
def nullable {α : Type} (read : Json τ → Checked α) : Json τ → Checked (Option α)
  | .null => .ok none
  | json => (read json).map some

/-- The integer that a floating-point number is; it must fit 64 bits. -/
def integerOfDouble (number : Double) : Checked Int :=
  if !number.isFinite then fail .notFinite
  else
    match number.toInt? with
    | none => fail .fraction
    | some value => if value.natAbs < 1 <<< 63 then .ok value else fail .integerTooLarge

/-- The integer that characters write. -/
def integerOfCharacters (plain : String) : Checked Int :=
  match Decimal.integer plain with
  | .ok value => .ok value
  | .error .malformed => fail .notIntegerText
  | .error .tooLong => fail .integerTooLarge

/-- An integer. -/
def integer [Wording τ] : Json τ → Checked Int
  | .int value => .ok value
  | .bool value => .ok (if value then 1 else 0)
  | .float number => integerOfDouble number
  | .string value => do integerOfCharacters (← characters value)
  | _ => fail .notInteger

/-- An integer that is at least one. -/
def lineNumber [Wording τ] (json : Json τ) : Checked Nat := do
  let value ← integer json
  if 1 ≤ value then return value.toNat else fail .tooSmall

/-- A floating-point number. -/
def double : Json → Checked Double
  | .float number => .ok number
  | .int value =>
    let number := Double.ofInt value
    if number.isFinite then .ok number else fail .notDouble
  | .bool value => .ok (Double.ofInt (if value then 1 else 0))
  | .string value =>
    match Decimal.double? value with
    | some number => .ok number
    | none => fail .notDoubleText
  | _ => fail .notDouble

/-- A list. -/
def list {α : Type} (read : Json τ → Checked α) : Json τ → Checked (List α)
  | .array items => itemsFrom 0 (items.map read)
  | _ => fail .notList

/-- The fields of an object. -/
def record : Json τ → Checked (List (τ × Json τ))
  | .object fields => .ok fields
  | _ => fail .notObject

/-- The two names of a field. -/
structure Key where
  /-- The name under which it is sent. -/
  sent : String
  /-- Its plain name. -/
  plain : String

/-- The key of a field that has one name. -/
def Key.single (name : String) : Key := ⟨name, name⟩

variable [DecidableEq τ] [Wording τ]

/-- The value of a field and the name under which it stands. -/
def Key.find? (key : Key) (fields : List (τ × Json τ)) : Option (String × Json τ) :=
  match Json.lookup fields (Wording.ofString key.sent) with
  | some value => some (key.sent, value)
  | none => (Json.lookup fields (Wording.ofString key.plain)).map (key.plain, ·)

/-- A field that must be there. -/
def required {α : Type} (fields : List (τ × Json τ)) (key : Key) (read : Json τ → Checked α) :
    Checked α :=
  match key.find? fields with
  | some (name, value) => (read value).within (.field name)
  | none => (fail .missing : Checked α).within (.field key.sent)

/-- A field that may be missing. -/
def optional {α : Type} (fields : List (τ × Json τ)) (key : Key) (default : α)
    (read : Json τ → Checked α) : Checked α :=
  match key.find? fields with
  | some (name, value) => (read value).within (.field name)
  | none => .ok default

end CodeAtlas.Intake
