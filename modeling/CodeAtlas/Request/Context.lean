import CodeAtlas.FileSystem.Path
import CodeAtlas.Request.Body

/-!
# The context of a request

What a question is about, in the form in which it is sent. Functions and classes keep their order
and lose what is not needed: bodies are compacted, files are named without their directories.
Everything else stays as it is, and a record of how the context was made is added. A value that is
nested too deeply to be copied has no context.
-/
namespace CodeAtlas.Request

/-- Why a value cannot be made into a context. -/
inductive ContextFault where
  /-- An object was expected. -/
  | notAnObject
  /-- A list was expected. -/
  | notAList
  /-- A text was expected. -/
  | notText
  /-- Values are nested more deeply than can be copied. -/
  | tooDeep
  deriving DecidableEq, Repr

/-- Whether a value has no more than so many levels; what stands in a list or an object is a level
below it. -/
def withinLevels : Nat → Json → Bool
  | 0, _ => false
  | levels + 1, .array items => items.all (withinLevels levels)
  | levels + 1, .object fields => fields.all fun field => withinLevels levels field.2
  | _ + 1, _ => true

/-- The fields of a value that must be an object. -/
def fieldsOf : Json → Except ContextFault (List (String × Json))
  | .object fields => .ok fields
  | _ => .error .notAnObject

/-- The values that stand in a value one after the other: the items of a list, the names of the
fields of an object or the characters of a text. -/
def elements : Json → Except ContextFault (List Json)
  | .array items => .ok items
  | .object fields => .ok (fields.map fun (name, _) => .string name)
  | .string text => .ok (text.toList.map fun char => .string (String.singleton char))
  | _ => .error .notAList

/-- The value of a field, or another value if it is missing. -/
def fieldOr (default : Json) (fields : List (String × Json)) (name : String) : Json :=
  (Json.lookup fields name).getD default

/-- The body that is sent for a body, which may be missing. -/
def sentBody : Json → Except ContextFault Json
  | .string body => .ok (.string (essential body))
  | body => if body.isTruthy then .error .notText else .ok (.string "")

/-- The place that is sent for a place, which may be missing. -/
def sentPlace (place : Json) : Except ContextFault Json :=
  if !place.isTruthy then .ok .null
  else do
    let fields ← fieldsOf place
    match fieldOr (.string "") fields "file" with
    | .string file =>
      .ok (.object [("file", .string (Path.ofString file).name),
        ("startLine", fieldOr .null fields "startLine"),
        ("endLine", fieldOr .null fields "endLine")])
    | _ => .error .notText

/-- What is sent of a method. -/
def sentMethod (method : Json) : Except ContextFault Json := do
  let fields ← fieldsOf method
  let body ← sentBody (fieldOr .null fields "body")
  return .object [("name", fieldOr .null fields "name"),
    ("parameters", fieldOr (.array []) fields "parameters"),
    ("returnType", fieldOr .null fields "returnType"), ("body", body),
    ("documentation", fieldOr (.string "") fields "documentation")]

/-- What is sent of a function. -/
def sentFunction (function : Json) : Except ContextFault Json := do
  let fields ← fieldsOf function
  let body ← sentBody (fieldOr .null fields "body")
  let location ← sentPlace (fieldOr .null fields "location")
  return .object [("name", fieldOr .null fields "name"),
    ("parameters", fieldOr (.array []) fields "parameters"),
    ("returnType", fieldOr .null fields "returnType"), ("body", body),
    ("documentation", fieldOr (.string "") fields "documentation"), ("location", location)]

/-- What is sent of a class. -/
def sentClass (cls : Json) : Except ContextFault Json := do
  let fields ← fieldsOf cls
  let members ← elements (fieldOr (.array []) fields "methods")
  let methods ← members.mapM sentMethod
  let location ← sentPlace (fieldOr .null fields "location")
  let note := fieldOr .null fields "note"
  return .object <|
    [("name", fieldOr .null fields "name"), ("methods", .array methods),
      ("properties", fieldOr (.array []) fields "properties"),
      ("documentation", fieldOr (.string "") fields "documentation"), ("location", location)] ++
    if note.isTruthy then [("note", note)] else []

/-- Fields with the items of the list in one of them changed; a field that holds no list stays. -/
def changeItems (name : String) (change : Json → Except ContextFault Json)
    (fields : List (String × Json)) : Except ContextFault (List (String × Json)) :=
  match Json.lookup fields name with
  | some (.array items) => do
    let items ← items.mapM change
    return Json.put fields name (.array items)
  | _ => .ok fields

/-- The record of how a context was made, at a moment. -/
def contextRecord (moment : String) : Json :=
  .object [("optimized", .bool true), ("timestamp", .string moment),
    ("note", .string "Code bodies are compacted; signatures and structure are preserved")]

/-- The context that is sent for a copy of a value. -/
def contextOfCopy (moment : String) (copy : Json) : Except ContextFault Json := do
  let fields ← fieldsOf copy
  let fields ← changeItems "functions" sentFunction fields
  let fields ← changeItems "classes" sentClass fields
  return .object (Json.put fields "_meta" (contextRecord moment))

/-- The context that is sent for a value, which is copied before anything is changed; no more than so
many levels can be copied. -/
def context (levels : Nat) (moment : String) (value : Json) : Except ContextFault Json :=
  if withinLevels levels value then contextOfCopy moment value else .error .tooDeep

end CodeAtlas.Request
