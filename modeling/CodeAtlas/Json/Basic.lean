import CodeAtlas.Decimal.Double
import CodeAtlas.Text.Wording

/-!
# JSON values

Values of the data format that results, requests and replies are exchanged in. Inside the program
their texts are sequences of Unicode characters; those of a value from outside can be of another
type, and `Json.unicode?` tells which values the program could have made. The fields of an object
keep their order, and no two have the same name in an object built by `Json.put`.
-/
namespace CodeAtlas

/-- A JSON value with texts of a type; integers and floating-point numbers are told apart. -/
inductive Json (τ : Type := String) where
  | null
  | bool (value : Bool)
  | int (value : Int)
  | float (value : Double)
  | string (value : τ)
  | array (items : List (Json τ))
  | object (fields : List (τ × Json τ))
  deriving Repr

namespace Json

/-- The most digits of an integer that is read or written. -/
def digitLimit : Nat := 4300

mutual

/-- Whether two values are the same, fields in the same order. -/
def same : Json → Json → Bool
  | .null, .null => true
  | .bool left, .bool right => left == right
  | .int left, .int right => left == right
  | .float left, .float right => left == right
  | .string left, .string right => left == right
  | .array left, .array right => sameItems left right
  | .object left, .object right => sameFields left right
  | _, _ => false

/-- Whether two lists of values are the same. -/
def sameItems : List Json → List Json → Bool
  | [], [] => true
  | left :: lefts, right :: rights => same left right && sameItems lefts rights
  | _, _ => false

/-- Whether two lists of fields are the same. -/
def sameFields : List (String × Json) → List (String × Json) → Bool
  | [], [] => true
  | (name, left) :: lefts, (other, right) :: rights =>
    name == other && same left right && sameFields lefts rights
  | _, _ => false

end

instance : BEq Json := ⟨same⟩

instance : Inhabited Json := ⟨.null⟩

/-- Set a field of a list of fields: a field that exists keeps its place. -/
def put (fields : List (String × Json)) (name : String) (value : Json) : List (String × Json) :=
  match fields with
  | [] => [(name, value)]
  | (other, old) :: rest =>
    if other = name then (other, value) :: rest else (other, old) :: put rest name value

/-- The value of a field of a list of fields. -/
def lookup {τ : Type} [DecidableEq τ] (fields : List (τ × Json τ)) (name : τ) : Option (Json τ) :=
  (fields.find? (·.1 == name)).map (·.2)

/-- The value of a field, if the value is an object that has it. -/
def get? (json : Json) (name : String) : Option Json :=
  match json with
  | .object fields => lookup fields name
  | _ => none

/-- Whether a value counts as true: all do but null, false, zero and what is empty. -/
def isTruthy : Json → Bool
  | .null => false
  | .bool value => value
  | .int value => value != 0
  | .float value => !value.isZero
  | .string value => !value.isEmpty
  | .array items => !items.isEmpty
  | .object fields => !fields.isEmpty

/-! ## Types of texts -/

section Wording

variable {τ : Type} [Wording τ]

mutual

/-- The value of the program that a value is, if all its texts hold Unicode characters only. -/
def unicode? : Json τ → Option Json
  | .null => some .null
  | .bool value => some (.bool value)
  | .int value => some (.int value)
  | .float value => some (.float value)
  | .string value => (Wording.unicode? value).map .string
  | .array items => (unicodeItems? items).map .array
  | .object fields => (unicodeFields? fields).map .object

/-- The items of the program that items are. -/
def unicodeItems? : List (Json τ) → Option (List Json)
  | [] => some []
  | item :: items => do
    let first ← unicode? item
    let rest ← unicodeItems? items
    return first :: rest

/-- The fields of the program that fields are. -/
def unicodeFields? : List (τ × Json τ) → Option (List (String × Json))
  | [] => some []
  | (name, value) :: fields => do
    let plain ← Wording.unicode? name
    let first ← unicode? value
    let rest ← unicodeFields? fields
    return (plain, first) :: rest

end

end Wording

end Json

end CodeAtlas
