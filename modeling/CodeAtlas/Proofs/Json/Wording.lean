import CodeAtlas.Json.Printer
import CodeAtlas.Proofs.Json.RoundTrip
import Mathlib.Data.Set.List

/-!
# Values with texts from outside

A value has a compact text exactly if it is a value of the program, only with its texts in another
type: `compact?_eq_some_iff`. What the reader can hold of it, it can hold of the value of the
program: `Held.of_worded`.
-/
namespace CodeAtlas.Json

variable {τ : Type} [Wording τ]

mutual

/-- A value of the program with texts of another type. -/
def worded : Json → Json τ
  | .null => .null
  | .bool value => .bool value
  | .int value => .int value
  | .float value => .float value
  | .string value => .string (Wording.ofString value)
  | .array items => .array (wordedItems items)
  | .object fields => .object (wordedFields fields)

/-- Items of the program with texts of another type. -/
def wordedItems : List Json → List (Json τ)
  | [] => []
  | item :: items => worded item :: wordedItems items

/-- Fields of the program with texts of another type. -/
def wordedFields : List (String × Json) → List (τ × Json τ)
  | [] => []
  | (name, value) :: fields => (Wording.ofString name, worded value) :: wordedFields fields

end

mutual

/-- A value is one of the program just if it is this one with texts of another type. -/
theorem unicode?_eq_some : ∀ {json : Json τ} {plain : Json},
    json.unicode? = some plain ↔ plain.worded = json
  | .string value, plain => by
    cases plain <;> simp [unicode?, worded, Wording.unicode?_eq_some]
  | .array items, plain => by
    cases plain <;> simp [unicode?, worded, unicodeItems?_eq_some]
  | .object fields, plain => by
    cases plain <;> simp [unicode?, worded, unicodeFields?_eq_some]
  | .null, plain | .bool _, plain | .int _, plain | .float _, plain => by
    cases plain <;> simp [unicode?, worded, eq_comm]

/-- Items are those of the program just if they are these with texts of another type. -/
theorem unicodeItems?_eq_some : ∀ {items : List (Json τ)} {plain : List Json},
    unicodeItems? items = some plain ↔ wordedItems plain = items
  | [], plain => by cases plain <;> simp [unicodeItems?, wordedItems]
  | item :: items, plain => by
    cases plain <;>
      simp [unicodeItems?, wordedItems, Option.bind_eq_some_iff, unicode?_eq_some,
        unicodeItems?_eq_some]

/-- Fields are those of the program just if they are these with texts of another type. -/
theorem unicodeFields?_eq_some : ∀ {fields : List (τ × Json τ)} {plain : List (String × Json)},
    unicodeFields? fields = some plain ↔ wordedFields plain = fields
  | [], plain => by cases plain <;> simp [unicodeFields?, wordedFields]
  | (name, value) :: fields, [] => by
    simp [unicodeFields?, wordedFields, Option.bind_eq_some_iff]
  | (name, value) :: fields, (other, first) :: rest => by
    simp [unicodeFields?, wordedFields, Option.bind_eq_some_iff, unicode?_eq_some,
      unicodeFields?_eq_some, Wording.unicode?_eq_some, and_assoc, and_left_comm]

end

/-- Different values of the program stay different with texts of another type. -/
theorem worded_inj {first second : Json} :
    (first.worded : Json τ) = second.worded ↔ first = second := by
  refine ⟨fun same => ?_, congrArg worded⟩
  have found : (second.worded : Json τ).unicode? = some first := unicode?_eq_some.mpr same
  rw [unicode?_eq_some.mpr rfl] at found
  exact (Option.some.inj found).symm

/-- A value has a compact text exactly if it is one of the program with texts of another type. -/
theorem compact?_eq_some_iff {json : Json τ} {text : String} :
    json.compact? = some text ↔
      ∃ plain : Json, plain.worded = json ∧ plain.text .compact = text := by
  rw [compact?, Option.map_eq_some_iff]
  simp only [unicode?_eq_some]

/-! ## Values of the program -/

mutual

/-- With texts of the program a value of the program stays as it is. -/
theorem worded_string : ∀ json : Json, (json.worded : Json) = json
  | .array items => by rw [worded, wordedItems_string]
  | .object fields => by rw [worded, wordedFields_string]
  | .null | .bool _ | .int _ | .float _ | .string _ => by rw [worded] <;> rfl

/-- With texts of the program items of the program stay as they are. -/
theorem wordedItems_string : ∀ items : List Json, (wordedItems items : List Json) = items
  | [] => rfl
  | item :: items => by rw [wordedItems, worded_string, wordedItems_string]

/-- With texts of the program fields of the program stay as they are. -/
theorem wordedFields_string :
    ∀ fields : List (String × Json), (wordedFields fields : List (String × Json)) = fields
  | [] => rfl
  | (name, value) :: fields => by
    rw [wordedFields, worded_string, wordedFields_string, Wording.ofString_string]

end

/-- A value of the program has a compact text. -/
theorem compact?_eq (json : Json) : json.compact? = some (json.text .compact) :=
  compact?_eq_some_iff.mpr ⟨json, worded_string json, rfl⟩

/-! ## Items and fields one by one -/

/-- Texts change item by item. -/
theorem wordedItems_eq_map (items : List Json) :
    (wordedItems items : List (Json τ)) = items.map worded := by
  induction items with
  | nil => rfl
  | cons item items ih => rw [wordedItems, ih, List.map_cons]

/-- Texts change field by field. -/
theorem wordedFields_eq_map (fields : List (String × Json)) :
    (wordedFields fields : List (τ × Json τ)) =
      fields.map fun field => (Wording.ofString field.1, field.2.worded) := by
  induction fields with
  | nil => rfl
  | cons field fields ih => rw [wordedFields, ih, List.map_cons]

/-! ## Values of the program with texts of any type -/

/-- A value is one of the program with texts of another type. -/
def IsWorded (json : Json τ) : Prop := ∃ plain : Json, plain.worded = json

/-- A list is one of changed items if every item is changed from one. -/
theorem exists_map_eq {α β : Type} {change : α → β} {items : List β}
    (each : ∀ item ∈ items, ∃ own, change own = item) :
    ∃ own : List α, own.map change = items := by
  have inside : items ∈ {items | ∀ item ∈ items, item ∈ Set.range change} := each
  rwa [← Set.range_list_map] at inside

/-- A text is one of the program just if it holds Unicode characters only. -/
theorem isWorded_string {text : τ} :
    (Json.string text).IsWorded ↔ ∃ plain : String, Wording.ofString plain = text := by
  constructor
  · rintro ⟨plain, same⟩
    cases plain with
    | string plain => exact ⟨plain, by simpa [worded] using same⟩
    | _ => simp [worded] at same
  · rintro ⟨plain, rfl⟩
    exact ⟨.string plain, rfl⟩

/-- A list is one of the program if every item is. -/
theorem isWorded_array {items : List (Json τ)} :
    (Json.array items).IsWorded ↔ ∀ item ∈ items, item.IsWorded := by
  constructor
  · rintro ⟨plain, same⟩
    cases plain with
    | array plain =>
      rw [worded, wordedItems_eq_map] at same
      cases same
      exact List.forall_mem_map.mpr fun item _ => ⟨item, rfl⟩
    | _ => simp [worded] at same
  · intro each
    obtain ⟨plain, rfl⟩ := exists_map_eq each
    exact ⟨.array plain, by rw [worded, wordedItems_eq_map]⟩

/-- An object is one of the program if the names and the values of its fields are. -/
theorem isWorded_object {fields : List (τ × Json τ)} :
    (Json.object fields).IsWorded ↔
      ∀ field ∈ fields, (∃ name, Wording.ofString name = field.1) ∧ field.2.IsWorded := by
  constructor
  · rintro ⟨plain, same⟩
    cases plain with
    | object plain =>
      rw [worded, wordedFields_eq_map] at same
      cases same
      exact List.forall_mem_map.mpr fun field _ => ⟨⟨field.1, rfl⟩, field.2, rfl⟩
    | _ => simp [worded] at same
  · intro each
    have known : ∀ field ∈ fields,
        ∃ own : String × Json, (Wording.ofString own.1, own.2.worded) = field := by
      intro field member
      obtain ⟨⟨name, named⟩, value, same⟩ := each field member
      exact ⟨(name, value), Prod.ext named same⟩
    obtain ⟨plain, rfl⟩ := exists_map_eq known
    exact ⟨.object plain, by rw [worded, wordedFields_eq_map]⟩

/-! ## What the reader can hold -/

mutual

/-- A value can be held if it can be held with texts of another type. -/
theorem Held.of_worded : ∀ {depth : Nat} {plain : Json},
    Held depth (plain.worded : Json τ) → Held depth plain
  | depth, .array items, held => by
    rw [worded] at held
    cases held with
    | array each => exact .array (held_of_wordedItems each)
  | depth, .object fields, held => by
    rw [worded] at held
    cases held with
    | object distinct each =>
      rw [wordedFields_eq_map, List.map_map] at distinct
      have differ : (fields.map (·.1)).Nodup :=
        List.pairwise_map.mpr <| (List.pairwise_map.mp distinct).imp fun apart same =>
          apart (congrArg Wording.ofString same)
      exact .object differ (held_of_wordedFields each)
  | depth, .int value, held => by
    rw [worded] at held
    cases held with
    | int short => exact .int short
  | depth, .null, _ => .null
  | depth, .bool value, _ => .bool value
  | depth, .string value, _ => .string value
  | depth, .float value, held => by
    rw [worded] at held
    cases held

/-- Items can be held if they can be held with texts of another type. -/
theorem held_of_wordedItems : ∀ {depth : Nat} {items : List Json},
    (∀ item ∈ (wordedItems items : List (Json τ)), Held depth item) →
      ∀ item ∈ items, Held depth item
  | depth, [], _ => List.forall_mem_nil _
  | depth, item :: items, held => by
    rw [wordedItems, List.forall_mem_cons] at held
    exact List.forall_mem_cons.mpr ⟨held.1.of_worded, held_of_wordedItems held.2⟩

/-- Fields can be held if they can be held with texts of another type. -/
theorem held_of_wordedFields : ∀ {depth : Nat} {fields : List (String × Json)},
    (∀ field ∈ (wordedFields fields : List (τ × Json τ)), Held depth field.2) →
      ∀ field ∈ fields, Held depth field.2
  | depth, [], _ => List.forall_mem_nil _
  | depth, (name, value) :: fields, held => by
    rw [wordedFields, List.forall_mem_cons] at held
    exact List.forall_mem_cons.mpr ⟨held.1.of_worded, held_of_wordedFields held.2⟩

end

end CodeAtlas.Json
