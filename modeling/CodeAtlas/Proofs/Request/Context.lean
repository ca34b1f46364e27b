import CodeAtlas.Entity.Json
import CodeAtlas.Request.Context

/-!
# The context of an analysis

What is sent of an analysis is a record of each entity, in order, with a record of how the context
was made: `context_toJson`. A record holds what it is about field by field; only bodies are
compacted, and only the last name of a path is kept.
-/
namespace CodeAtlas.Request

/-! ## Records -/

/-- What is sent of a place. -/
def placeRecord (location : Location) : Json :=
  .object [("file", .string (Path.ofString location.file).name),
    ("startLine", .int location.startLine), ("endLine", .int location.endLine)]

/-- The text that is sent for the body of a function; a missing body counts as empty. -/
def bodyText (function : Function) : String := essential (function.body.getD "")

/-- What is sent of a method. -/
def methodRecord (method : Function) : Json :=
  .object [("name", .string method.name),
    ("parameters", .array (method.parameters.map Parameter.toJson)),
    ("returnType", .string method.returnType), ("body", .string (bodyText method)),
    ("documentation", .string method.documentation)]

/-- What is sent of a function with a text for its body. -/
def functionRecord (function : Function) (body : String) : Json :=
  .object [("name", .string function.name),
    ("parameters", .array (function.parameters.map Parameter.toJson)),
    ("returnType", .string function.returnType), ("body", .string body),
    ("documentation", .string function.documentation),
    ("location", placeRecord function.location)]

/-- What is sent of a note, if there is one; an empty note is left out. -/
def noteFields : Option String → List (String × Json)
  | some note => if note = "" then [] else [("note", .string note)]
  | none => []

/-- What is sent of a class. -/
def classRecord (cls : Class) : Json :=
  .object <|
    [("name", .string cls.name), ("methods", .array (cls.methods.map methodRecord)),
      ("properties", .array (cls.properties.map Property.toJson)),
      ("documentation", .string cls.documentation), ("location", placeRecord cls.location)] ++
    noteFields cls.note

/-- What is sent of an analysis at a moment. -/
def analysisRecord (moment : String) (analysis : Analysis) : Json :=
  .object
    [("functions", .array (analysis.functions.map fun function =>
        functionRecord function (bodyText function))),
      ("classes", .array (analysis.classes.map classRecord)),
      ("_meta", contextRecord moment)]

/-! ## Levels -/

/-- The form of a function has few levels. -/
theorem withinLevels_function (levels : Nat) (function : Function) :
    withinLevels (levels + 4) function.toJson = true := by
  have parameter (parameter : Parameter) : withinLevels (levels + 2) parameter.toJson = true := rfl
  cases body : function.body <;>
    simp [Function.toJson, Location.toJson, Json.optionalField, withinLevels, parameter, body]

/-- The form of a class has few levels. -/
theorem withinLevels_class (levels : Nat) (cls : Class) :
    withinLevels (levels + 6) cls.toJson = true := by
  have property (property : Property) : withinLevels (levels + 4) property.toJson = true := rfl
  cases note : cls.note <;>
    simp [Class.toJson, Location.toJson, Json.optionalField, withinLevels, property,
      withinLevels_function, note]

/-- The form of an analysis can be copied. -/
theorem withinLevels_analysis {levels : Nat} (roomy : 10 ≤ levels) (analysis : Analysis) :
    withinLevels levels analysis.toJson = true := by
  obtain ⟨more, rfl⟩ := Nat.exists_eq_add_of_le' (show 8 ≤ levels by omega)
  simp [Analysis.toJson, withinLevels, withinLevels_function, withinLevels_class]

/-! ## What is sent -/

/-- An empty body is sent as it is. -/
theorem essential_empty : essential "" = "" := by decide +kernel

/-- What stands for a body that is too large is sent as it is. -/
theorem essential_truncatedBody : essential Chunk.truncatedBody = Chunk.truncatedBody :=
  if_pos rfl

/-- What is sent of each of the JSON forms of items is the record of each item. -/
theorem mapM_toJson {α : Type} {toJson : α → Json} {sent : Json → Except ContextFault Json}
    {record : α → Json} (each : ∀ item, sent (toJson item) = .ok (record item)) (items : List α) :
    (items.map toJson).mapM sent = .ok (items.map record) := by
  induction items with
  | nil => rfl
  | cons item items ih =>
    rw [List.map_cons, List.mapM_cons, each, ih]
    rfl

/-- What is sent of a place is its record. -/
theorem sentPlace_toJson (location : Location) :
    sentPlace location.toJson = .ok (placeRecord location) :=
  rfl

/-- What is sent of a method is its record; a missing body is sent as an empty one. -/
theorem sentMethod_toJson (method : Function) :
    sentMethod method.toJson = .ok (methodRecord method) := by
  unfold sentMethod Function.toJson methodRecord bodyText
  cases method.body <;>
    simp [fieldsOf, fieldOr, Json.lookup, Json.optionalField, sentBody, Json.isTruthy,
      essential_empty, bind, Except.bind, pure, Except.pure]

/-- What is sent of a function is its record with its compacted body. -/
theorem sentFunction_toJson (function : Function) :
    sentFunction function.toJson = .ok (functionRecord function (bodyText function)) := by
  have place := sentPlace_toJson function.location
  unfold sentFunction Function.toJson functionRecord bodyText
  cases function.body <;>
    simp [fieldsOf, fieldOr, Json.lookup, Json.optionalField, sentBody, Json.isTruthy,
      essential_empty, place, bind, Except.bind, pure, Except.pure]

/-- What is sent of a class is its record. -/
theorem sentClass_toJson (cls : Class) : sentClass cls.toJson = .ok (classRecord cls) := by
  have methods := mapM_toJson sentMethod_toJson cls.methods
  have place := sentPlace_toJson cls.location
  unfold sentClass Class.toJson classRecord
  cases cls.note <;>
    simp [fieldsOf, fieldOr, elements, Json.lookup, methods, place, Json.optionalField, noteFields,
      Json.isTruthy, bind, Except.bind, pure, Except.pure]

/-- The context of an analysis is its record. -/
theorem context_toJson {levels : Nat} (roomy : 10 ≤ levels) (moment : String)
    (analysis : Analysis) :
    context levels moment analysis.toJson = .ok (analysisRecord moment analysis) := by
  have functions := mapM_toJson sentFunction_toJson analysis.functions
  have classes := mapM_toJson sentClass_toJson analysis.classes
  rw [context, if_pos (withinLevels_analysis roomy analysis)]
  simp [contextOfCopy, Analysis.toJson, fieldsOf, changeItems, Json.lookup, Json.put, functions,
    classes, analysisRecord, bind, Except.bind, pure, Except.pure]

end CodeAtlas.Request
