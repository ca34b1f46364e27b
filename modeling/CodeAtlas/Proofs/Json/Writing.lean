import CodeAtlas.Json.Printer
import CodeAtlas.Proofs.Json.RoundTrip

/-!
# Values that can be written

The writer is stopped by long integers and by deep nesting, as the reader is. So a regular value can
be written within so many levels exactly if a reader with so many levels can hold it: `held_iff`.
-/
namespace CodeAtlas.Json

variable {levels : Nat}

/-- The writer gets through a list exactly if it gets through its items. -/
theorem writeError?_array_eq_none_iff {items : List Json} :
    (Json.array items).writeError? (levels + 1) = none ↔
      ∀ item ∈ items, item.writeError? levels = none := by
  rw [writeError?, List.findSome?_eq_none_iff]

/-- The writer gets through an object exactly if it gets through the values of its fields. -/
theorem writeError?_object_eq_none_iff {fields : List (String × Json)} :
    (Json.object fields).writeError? (levels + 1) = none ↔
      ∀ field ∈ fields, field.2.writeError? levels = none := by
  rw [writeError?, List.findSome?_eq_none_iff]

/-- A value has a text exactly if nothing stops the writer. -/
theorem text?_eq_ok_iff {layout : Layout} {json : Json} {text : String} :
    json.text? levels layout = .ok text ↔
      json.writeError? levels = none ∧ json.text layout = text := by
  unfold text?
  cases json.writeError? levels <;> simp

/-- Nothing stops the writer of a value that can be held. -/
theorem Held.writeError?_eq_none {json : Json} (held : Held levels json) :
    json.writeError? levels = none := by
  induction held with
  | null | bool _ | string _ => simp [writeError?]
  | int short =>
    rw [writeError?, if_neg (Nat.not_lt.mpr short)]
  | array _ ih => exact writeError?_array_eq_none_iff.mpr ih
  | object _ _ ih => exact writeError?_object_eq_none_iff.mpr ih

/-- A regular value that can be written can be held. -/
theorem Regular.held_of_writeError? {json : Json} (regular : Regular json)
    (writable : json.writeError? levels = none) : Held levels json := by
  induction regular generalizing levels with
  | null => exact .null
  | bool value => exact .bool value
  | string value => exact .string value
  | int value =>
    rw [writeError?] at writable
    exact .int (Nat.not_lt.mp fun long => by simp [long] at writable)
  | array each ih =>
    cases levels with
    | zero => simp [writeError?] at writable
    | succ levels =>
      have inside := writeError?_array_eq_none_iff.mp writable
      exact .array fun item member => ih item member (inside item member)
  | object distinct each ih =>
    cases levels with
    | zero => simp [writeError?] at writable
    | succ levels =>
      have inside := writeError?_object_eq_none_iff.mp writable
      exact .object distinct fun field member => ih field member (inside field member)

/-- A value can be held exactly if it is regular and can be written within so many levels. -/
theorem held_iff {json : Json} :
    Held levels json ↔ Regular json ∧ json.writeError? levels = none :=
  ⟨fun held => ⟨held.regular, held.writeError?_eq_none⟩, fun ⟨regular, writable⟩ =>
    regular.held_of_writeError? writable⟩

end CodeAtlas.Json
