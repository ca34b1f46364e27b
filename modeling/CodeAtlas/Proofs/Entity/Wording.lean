import CodeAtlas.Entity.Json
import CodeAtlas.Proofs.Json.Wording

/-!
# Results with texts from outside

A result of the program stays what it is when its texts change their type: so does its form, and it
is valid if it was. A result has a compact text exactly if it is a result of the program, only with
its texts in another type: `Analysis.compact?_eq_some_iff`.
-/
namespace CodeAtlas

open Json Wording

variable {τ : Type} [Wording τ]

/-- A place of the program with texts of another type. -/
def Location.worded (location : Location) : Location τ :=
  ⟨ofString location.file, location.startLine, location.endLine⟩

/-- A parameter of the program with texts of another type. -/
def Parameter.worded (parameter : Parameter) : Parameter τ :=
  ⟨ofString parameter.name, ofString parameter.type⟩

/-- A function of the program with texts of another type. -/
def Function.worded (function : Function) : Function τ :=
  ⟨ofString function.name, function.parameters.map Parameter.worded, ofString function.returnType,
    function.body.map ofString, ofString function.documentation, function.location.worded⟩

/-- A property of the program with texts of another type. -/
def Property.worded (property : Property) : Property τ :=
  ⟨ofString property.name, ofString property.type, ofString property.documentation⟩

/-- A class of the program with texts of another type. -/
def Class.worded (cls : Class) : Class τ :=
  ⟨ofString cls.name, cls.methods.map Function.worded, cls.properties.map Property.worded,
    ofString cls.documentation, cls.location.worded, cls.note.map ofString⟩

/-- An analysis of the program with texts of another type. -/
def Analysis.worded (analysis : Analysis) : Analysis τ :=
  ⟨analysis.functions.map Function.worded, analysis.classes.map Class.worded⟩

/-! ## Texts of the program -/

/-- With texts of the program a parameter of the program stays as it is. -/
theorem Parameter.worded_string (parameter : Parameter) :
    (parameter.worded : Parameter) = parameter := rfl

/-- With texts of the program a function of the program stays as it is. -/
theorem Function.worded_string (function : Function) : (function.worded : Function) = function := by
  obtain ⟨name, parameters, returnType, body, documentation, location⟩ := function
  have listed := List.map_id'' Parameter.worded_string parameters
  cases body <;> simp [worded, Location.worded, listed]

/-- With texts of the program a property of the program stays as it is. -/
theorem Property.worded_string (property : Property) :
    (property.worded : Property) = property := rfl

/-- With texts of the program a class of the program stays as it is. -/
theorem Class.worded_string (cls : Class) : (cls.worded : Class) = cls := by
  obtain ⟨name, methods, properties, documentation, location, note⟩ := cls
  have acting := List.map_id'' Function.worded_string methods
  have having := List.map_id'' Property.worded_string properties
  cases note <;> simp [worded, Location.worded, acting, having]

/-- With texts of the program an analysis of the program stays as it is. -/
theorem Analysis.worded_string (analysis : Analysis) : (analysis.worded : Analysis) = analysis := by
  have first := List.map_id'' Function.worded_string analysis.functions
  have second := List.map_id'' Class.worded_string analysis.classes
  rw [worded, first, second]

/-! ## Forms -/

/-- The form of a place has its texts in the type of the place. -/
theorem Location.toJson_worded (location : Location) :
    (location.worded : Location τ).toJson = location.toJson.worded := rfl

/-- The form of a parameter has its texts in the type of the parameter. -/
theorem Parameter.toJson_worded (parameter : Parameter) :
    (parameter.worded : Parameter τ).toJson = parameter.toJson.worded := rfl

/-- The form of a function has its texts in the type of the function. -/
theorem Function.toJson_worded (function : Function) :
    (function.worded : Function τ).toJson = function.toJson.worded := by
  cases body : function.body <;>
    simp [toJson, worded, Json.worded, wordedFields_eq_map, wordedItems_eq_map, optionalField, body,
      Parameter.toJson_worded, Location.toJson_worded]

/-- The form of a property has its texts in the type of the property. -/
theorem Property.toJson_worded (property : Property) :
    (property.worded : Property τ).toJson = property.toJson.worded := rfl

/-- The form of a class has its texts in the type of the class. -/
theorem Class.toJson_worded (cls : Class) :
    (cls.worded : Class τ).toJson = cls.toJson.worded := by
  cases note : cls.note <;>
    simp [toJson, worded, Json.worded, wordedFields_eq_map, wordedItems_eq_map, optionalField, note,
      Function.toJson_worded, Property.toJson_worded, Location.toJson_worded]

/-- The form of an analysis has its texts in the type of the analysis. -/
theorem Analysis.toJson_worded (analysis : Analysis) :
    (analysis.worded : Analysis τ).toJson = analysis.toJson.worded := by
  simp [toJson, worded, Json.worded, wordedFields_eq_map, wordedItems_eq_map,
    Function.toJson_worded, Class.toJson_worded]

/-! ## Validity -/

/-- A function is valid if it is with texts of another type. -/
theorem Function.valid_of_worded {function : Function}
    (valid : (function.worded : Function τ).Valid) : function.Valid :=
  ⟨isName_string.mpr (isName_ofString.mp valid.1), valid.2⟩

/-- A class is valid if it is with texts of another type. -/
theorem Class.valid_of_worded {cls : Class} (valid : (cls.worded : Class τ).Valid) : cls.Valid := by
  obtain ⟨named, placed, each⟩ := valid
  refine ⟨isName_string.mpr (isName_ofString.mp named), placed, fun method member => ?_⟩
  exact Function.valid_of_worded (List.forall_mem_map.mp each method member)

/-- An analysis is valid if it is with texts of another type. -/
theorem Analysis.valid_of_worded {analysis : Analysis}
    (valid : (analysis.worded : Analysis τ).Valid) : analysis.Valid :=
  ⟨fun function member =>
      Function.valid_of_worded (List.forall_mem_map.mp valid.1 function member),
    fun cls member => Class.valid_of_worded (List.forall_mem_map.mp valid.2 cls member)⟩

/-! ## Results that can be written -/

/-- A text that may be missing is one of the program if its field is. -/
theorem exists_of_optionalField {name : String} {value : Option τ}
    (known : ∀ field ∈ optionalField name value,
      (∃ name, ofString name = field.1) ∧ field.2.IsWorded) :
    ∃ own : Option String, own.map ofString = value := by
  cases value with
  | none => exact ⟨none, rfl⟩
  | some value =>
    obtain ⟨-, text⟩ := List.forall_mem_singleton.mp known
    obtain ⟨own, rfl⟩ := isWorded_string.mp text
    exact ⟨some own, rfl⟩

/-- A place is one of the program if its form is. -/
theorem Location.exists_worded {location : Location τ} (known : location.toJson.IsWorded) :
    ∃ own : Location, own.worded = location := by
  obtain ⟨file, startLine, endLine⟩ := location
  simp only [toJson, isWorded_object, List.forall_mem_cons, isWorded_string] at known
  obtain ⟨⟨-, plain, rfl⟩, -⟩ := known
  exact ⟨⟨plain, startLine, endLine⟩, rfl⟩

/-- A parameter is one of the program if its form is. -/
theorem Parameter.exists_worded {parameter : Parameter τ} (known : parameter.toJson.IsWorded) :
    ∃ own : Parameter, own.worded = parameter := by
  obtain ⟨name, type⟩ := parameter
  simp only [toJson, isWorded_object, List.forall_mem_cons, isWorded_string] at known
  obtain ⟨⟨-, name, rfl⟩, ⟨-, type, rfl⟩, -⟩ := known
  exact ⟨⟨name, type⟩, rfl⟩

/-- A function is one of the program if its form is. -/
theorem Function.exists_worded {function : Function τ} (known : function.toJson.IsWorded) :
    ∃ own : Function, own.worded = function := by
  obtain ⟨name, parameters, returnType, body, documentation, location⟩ := function
  simp only [toJson, isWorded_object, List.forall_mem_append, List.forall_mem_cons,
    isWorded_string, isWorded_array, List.forall_mem_map] at known
  obtain ⟨⟨⟨⟨-, name, rfl⟩, ⟨-, each⟩, ⟨-, returnType, rfl⟩, -⟩, given⟩, ⟨-, documentation, rfl⟩,
    ⟨-, placed⟩, -⟩ := known
  obtain ⟨parameters, rfl⟩ := exists_map_eq fun parameter member =>
    Parameter.exists_worded (each parameter member)
  obtain ⟨body, rfl⟩ := exists_of_optionalField given
  obtain ⟨location, rfl⟩ := Location.exists_worded placed
  exact ⟨⟨name, parameters, returnType, body, documentation, location⟩, rfl⟩

/-- A property is one of the program if its form is. -/
theorem Property.exists_worded {property : Property τ} (known : property.toJson.IsWorded) :
    ∃ own : Property, own.worded = property := by
  obtain ⟨name, type, documentation⟩ := property
  simp only [toJson, isWorded_object, List.forall_mem_cons, isWorded_string] at known
  obtain ⟨⟨-, name, rfl⟩, ⟨-, type, rfl⟩, ⟨-, documentation, rfl⟩, -⟩ := known
  exact ⟨⟨name, type, documentation⟩, rfl⟩

/-- A class is one of the program if its form is. -/
theorem Class.exists_worded {cls : Class τ} (known : cls.toJson.IsWorded) :
    ∃ own : Class, own.worded = cls := by
  obtain ⟨name, methods, properties, documentation, location, note⟩ := cls
  simp only [toJson, isWorded_object, List.forall_mem_append, List.forall_mem_cons,
    isWorded_string, isWorded_array, List.forall_mem_map] at known
  obtain ⟨⟨⟨-, name, rfl⟩, ⟨-, acting⟩, ⟨-, having⟩, ⟨-, documentation, rfl⟩, ⟨-, placed⟩, -⟩,
    noted⟩ := known
  obtain ⟨methods, rfl⟩ := exists_map_eq fun method member =>
    Function.exists_worded (acting method member)
  obtain ⟨properties, rfl⟩ := exists_map_eq fun property member =>
    Property.exists_worded (having property member)
  obtain ⟨location, rfl⟩ := Location.exists_worded placed
  obtain ⟨note, rfl⟩ := exists_of_optionalField noted
  exact ⟨⟨name, methods, properties, documentation, location, note⟩, rfl⟩

/-- An analysis is one of the program if its form is. -/
theorem Analysis.exists_worded {analysis : Analysis τ} (known : analysis.toJson.IsWorded) :
    ∃ own : Analysis, own.worded = analysis := by
  obtain ⟨functions, classes⟩ := analysis
  simp only [toJson, isWorded_object, List.forall_mem_cons, isWorded_array,
    List.forall_mem_map] at known
  obtain ⟨⟨-, first⟩, ⟨-, second⟩, -⟩ := known
  obtain ⟨functions, rfl⟩ := exists_map_eq fun function member =>
    Function.exists_worded (first function member)
  obtain ⟨classes, rfl⟩ := exists_map_eq fun cls member =>
    Class.exists_worded (second cls member)
  exact ⟨⟨functions, classes⟩, rfl⟩

/-- An analysis has a compact text exactly if it is one of the program with texts of another type;
the text is that of the analysis of the program. -/
theorem Analysis.compact?_eq_some_iff {analysis : Analysis τ} {text : String} :
    analysis.toJson.compact? = some text ↔
      ∃ own : Analysis, own.worded = analysis ∧ own.toJson.text .compact = text := by
  constructor
  · intro written
    obtain ⟨plain, same, rfl⟩ := Json.compact?_eq_some_iff.mp written
    obtain ⟨own, rfl⟩ := exists_worded ⟨plain, same⟩
    rw [toJson_worded, Json.worded_inj] at same
    exact ⟨own, rfl, by rw [same]⟩
  · rintro ⟨own, rfl, rfl⟩
    exact Json.compact?_eq_some_iff.mpr ⟨own.toJson, own.toJson_worded.symm, rfl⟩

end CodeAtlas
