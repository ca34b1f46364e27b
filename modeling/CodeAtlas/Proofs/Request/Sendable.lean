import CodeAtlas.Proofs.Entity.Preservation
import CodeAtlas.Proofs.Json.Writing
import CodeAtlas.Proofs.Request.Context

/-!
# Contexts that can be written

Of the integers in an analysis only the lines of its functions and classes are sent. So its context
can be written exactly if these can, whatever the methods of its classes have for lines:
`writeError?_analysisRecord_eq_none_iff`. Such a context can be read back.
-/
namespace CodeAtlas

open Json (Held Regular writeError?_object_eq_none_iff writeError?_array_eq_none_iff)

/-- The lines that are sent of an analysis can be read. -/
def Analysis.Sendable (analysis : Analysis) : Prop :=
  (∀ function ∈ analysis.functions, function.location.Legible) ∧
    ∀ cls ∈ analysis.classes, cls.location.Legible

/-- If all lines of an analysis can be read, so can those that are sent. -/
theorem Analysis.Legible.sendable {analysis : Analysis} (legible : analysis.Legible) :
    analysis.Sendable :=
  ⟨legible.1, fun cls member => (legible.2 cls member).1⟩

/-- The lines that are sent of the chunks of an analysis are lines that are sent of the analysis. -/
theorem Chunker.chunkWithin_sendable (chunker : Chunker) {analysis : Analysis}
    (sendable : analysis.Sendable) :
    ∀ chunk ∈ chunker.chunkWithin chunker.budget analysis, chunk.Sendable := by
  have cut : chunker.chunk analysis none = .ok (chunker.chunkWithin chunker.budget analysis) := rfl
  exact chunk_inherits (·.location.Legible) (·.location.Legible) (fun _ legible => legible)
    (fun _ _ _ legible _ => legible) cut sendable.1 sendable.2

namespace Request

variable {levels : Nat}

/-! ## Records that are regular -/

/-- The record of a place is regular. -/
theorem regular_placeRecord (location : Location) : Regular (placeRecord location) := by
  refine .object (by simp) ?_
  simp only [List.forall_mem_cons]
  exact ⟨.string _, .int _, .int _, List.forall_mem_nil _⟩

/-- The parameters of a function are regular. -/
theorem regular_parameters (function : Function) :
    Regular (.array (function.parameters.map Parameter.toJson)) := by
  refine .array (List.forall_mem_map.mpr fun parameter _ => ?_)
  have held : Held 1 parameter.toJson := parameter.held
  exact held.regular

/-- The record of a method is regular. -/
theorem regular_methodRecord (method : Function) : Regular (methodRecord method) := by
  refine .object (by simp) ?_
  simp only [List.forall_mem_cons]
  exact ⟨.string _, regular_parameters method, .string _, .string _, .string _,
    List.forall_mem_nil _⟩

/-- The record of a function is regular. -/
theorem regular_functionRecord (function : Function) (body : String) :
    Regular (functionRecord function body) := by
  refine .object (by simp) ?_
  simp only [List.forall_mem_cons]
  exact ⟨.string _, regular_parameters function, .string _, .string _, .string _,
    regular_placeRecord _, List.forall_mem_nil _⟩

/-- The record of a class is regular. -/
theorem regular_classRecord (cls : Class) : Regular (classRecord cls) := by
  have methods : Regular (.array (cls.methods.map methodRecord)) :=
    .array (List.forall_mem_map.mpr fun method _ => regular_methodRecord method)
  have properties : Regular (.array (cls.properties.map Property.toJson)) := by
    refine .array (List.forall_mem_map.mpr fun property _ => ?_)
    have held : Held 1 property.toJson := property.held
    exact held.regular
  have note : ∀ field ∈ noteFields cls.note, Regular field.2 := by
    unfold noteFields
    split
    · split_ifs
      · exact List.forall_mem_nil _
      · exact List.forall_mem_singleton.mpr (.string _)
    · exact List.forall_mem_nil _
  refine .object ?_ ?_
  · unfold noteFields
    split
    · split_ifs <;> simp
    · simp
  · simp only [List.forall_mem_append, List.forall_mem_cons]
    exact ⟨⟨.string _, methods, properties, .string _, regular_placeRecord _,
      List.forall_mem_nil _⟩, note⟩

/-- The context of an analysis is regular. -/
theorem regular_analysisRecord (moment : String) (analysis : Analysis) :
    Regular (analysisRecord moment analysis) := by
  have record : Regular (contextRecord moment) := by
    refine .object (by simp) ?_
    simp only [List.forall_mem_cons]
    exact ⟨.bool _, .string _, .string _, List.forall_mem_nil _⟩
  refine .object (by simp) ?_
  simp only [List.forall_mem_cons]
  exact ⟨.array (List.forall_mem_map.mpr fun function _ => regular_functionRecord function _),
    .array (List.forall_mem_map.mpr fun cls _ => regular_classRecord cls), record,
    List.forall_mem_nil _⟩

/-! ## Records that can be written -/

/-- Texts can always be written. -/
@[simp]
theorem writeError?_string (text : String) : (Json.string text).writeError? levels = none := by
  simp [Json.writeError?]

/-- The record of a place can be written exactly if its lines can. -/
theorem writeError?_placeRecord (location : Location) :
    (placeRecord location).writeError? (levels + 1) = none ↔ location.Legible := by
  simp [placeRecord, Json.writeError?, Location.Legible, Json.Short]

/-- Parameters can be written. -/
theorem writeError?_parameters (function : Function) :
    (Json.array (function.parameters.map Parameter.toJson)).writeError? (levels + 2) = none := by
  refine writeError?_array_eq_none_iff.mpr (List.forall_mem_map.mpr fun parameter _ => ?_)
  exact parameter.held.writeError?_eq_none

/-- The record of a method can be written. -/
theorem writeError?_methodRecord (method : Function) :
    (methodRecord method).writeError? (levels + 3) = none := by
  simp [methodRecord, writeError?_object_eq_none_iff, writeError?_parameters]

/-- The record of a function can be written exactly if its lines can. -/
theorem writeError?_functionRecord (function : Function) (body : String) :
    (functionRecord function body).writeError? (levels + 3) = none ↔
      function.location.Legible := by
  simp [functionRecord, writeError?_object_eq_none_iff, writeError?_parameters,
    writeError?_placeRecord]

/-- The record of a class can be written exactly if its own lines can. -/
theorem writeError?_classRecord (cls : Class) :
    (classRecord cls).writeError? (levels + 5) = none ↔ cls.location.Legible := by
  have properties :
      (Json.array (cls.properties.map Property.toJson)).writeError? (levels + 4) = none := by
    refine writeError?_array_eq_none_iff.mpr (List.forall_mem_map.mpr fun property _ => ?_)
    exact property.held.writeError?_eq_none
  have note : ∀ field ∈ noteFields cls.note, field.2.writeError? (levels + 4) = none := by
    unfold noteFields
    split
    · split_ifs <;> simp
    · simp
  have methods : (Json.array (cls.methods.map methodRecord)).writeError? (levels + 4) = none :=
    writeError?_array_eq_none_iff.mpr
      (List.forall_mem_map.mpr fun method _ => writeError?_methodRecord method)
  rw [classRecord, writeError?_object_eq_none_iff, List.forall_mem_append, and_iff_left note]
  simp [methods, properties, writeError?_placeRecord]

/-- The context of an analysis can be written, where there is room for what the program itself
nests, exactly if the lines that are sent can. -/
theorem writeError?_analysisRecord_eq_none_iff (roomy : 10 ≤ levels) (moment : String)
    (analysis : Analysis) :
    (analysisRecord moment analysis).writeError? levels = none ↔ analysis.Sendable := by
  obtain ⟨more, rfl⟩ := Nat.exists_eq_add_of_le' (show 7 ≤ levels by omega)
  have record : (contextRecord moment).writeError? (more + 6) = none := by
    simp [contextRecord, Json.writeError?]
  rw [analysisRecord, writeError?_object_eq_none_iff]
  simp [writeError?_array_eq_none_iff, writeError?_functionRecord, writeError?_classRecord, record,
    Analysis.Sendable]

/-- The context of an analysis whose lines can be sent can be held. -/
theorem held_analysisRecord (moment : String) {analysis : Analysis}
    (sendable : analysis.Sendable) : Held 10 (analysisRecord moment analysis) :=
  Json.held_iff.mpr ⟨regular_analysisRecord moment analysis,
    (writeError?_analysisRecord_eq_none_iff (Nat.le_refl 10) moment analysis).mpr sendable⟩

end Request

end CodeAtlas
