import CodeAtlas.Entity.Intake
import CodeAtlas.Entity.Json

/-!
# Entities taken in

Whatever is taken in is valid, and a valid entity is taken in from its JSON form as itself. The
second holds for both spellings of keys: mixed case, in which entities leave the program, and snake
case. `Analysis.ofJson_spelled` and `ProjectAnalysis.ofJson_spelled` say so of whole results.
-/
namespace CodeAtlas

variable {τ : Type}

/-! ## Spellings of keys -/

/-- A name in snake case: each capital is small and stands after a mark. -/
@[simp]
def snakeCase (name : String) : String :=
  String.ofList (name.toList.flatMap fun char =>
    if char.isUpper then ['_', char.toLower] else [char])

/-- How the keys of objects are spelled. -/
inductive Spelling where
  /-- In mixed case. -/
  | mixed
  /-- In snake case. -/
  | snake

/-- The spelling of a name in mixed case; what is no Unicode text stays as it is. -/
@[simp]
def Spelling.name [Wording τ] : Spelling → τ → τ
  | .mixed, name => name
  | .snake, name =>
    ((Wording.unicode? name).map fun plain => Wording.ofString (snakeCase plain)).getD name

namespace Json

variable [Wording τ]

mutual

/-- A value with all keys spelled anew. -/
@[simp]
def spelled (spelling : Spelling) : Json τ → Json τ
  | .array items => .array (spelledItems spelling items)
  | .object fields => .object (spelledFields spelling fields)
  | json => json

/-- Items with all keys spelled anew. -/
def spelledItems (spelling : Spelling) : List (Json τ) → List (Json τ)
  | [] => []
  | item :: items => spelled spelling item :: spelledItems spelling items

/-- Fields with all keys spelled anew. -/
@[simp]
def spelledFields (spelling : Spelling) : List (τ × Json τ) → List (τ × Json τ)
  | [] => []
  | (name, value) :: fields =>
    (spelling.name name, spelled spelling value) :: spelledFields spelling fields

end

mutual

/-- In mixed case a value stays as it is. -/
theorem spelled_mixed : ∀ json : Json τ, spelled .mixed json = json
  | .array items => by rw [spelled, spelledItems_mixed]
  | .object fields => by rw [spelled, spelledFields_mixed]
  | .null | .bool _ | .int _ | .float _ | .string _ => by rw [spelled] <;> simp

/-- In mixed case items stay as they are. -/
theorem spelledItems_mixed : ∀ items : List (Json τ), spelledItems .mixed items = items
  | [] => rfl
  | item :: items => by rw [spelledItems, spelled_mixed, spelledItems_mixed]

/-- In mixed case fields stay as they are. -/
theorem spelledFields_mixed :
    ∀ fields : List (τ × Json τ), spelledFields .mixed fields = fields
  | [] => rfl
  | (name, value) :: fields => by
    rw [spelledFields, spelled_mixed, spelledFields_mixed, Spelling.name]

end

/-- Items are spelled one by one. -/
theorem spelledItems_map {α : Type} (spelling : Spelling) (form : α → Json τ) (items : List α) :
    spelledItems spelling (items.map form) =
      items.map fun item => (form item).spelled spelling := by
  induction items with
  | nil => rfl
  | cons item items ih => rw [List.map_cons, spelledItems, ih, List.map_cons]

end Json

namespace Intake

variable {α β : Type}

/-! ## What is taken in -/

/-- Two values are had together if each is had. -/
theorem Checked.and_eq_ok {first : Checked α} {second : Checked β} {pair : α × β} :
    first.and second = .ok pair ↔ first = .ok pair.1 ∧ second = .ok pair.2 := by
  obtain ⟨left, right⟩ := pair
  cases first <;> cases second <;> simp [Checked.and]

/-- What comes of a value needs the value. -/
theorem Checked.bind_eq_ok {first : Checked α} {next : α → Checked β} {value : β} :
    (first >>= next) = .ok value ↔ ∃ taken, first = .ok taken ∧ next taken = .ok value := by
  cases first with
  | error findings => exact ⟨by rintro ⟨⟩, by rintro ⟨_, ⟨⟩, _⟩⟩
  | ok taken => exact ⟨fun had => ⟨taken, rfl, had⟩, by rintro ⟨_, ⟨⟩, had⟩; exact had⟩

/-- What is made of a value needs the value. -/
theorem map_eq_ok {ε : Type} {checked : Except ε α} {make : α → β} {value : β} :
    checked.map make = .ok value ↔ ∃ taken, checked = .ok taken ∧ make taken = value := by
  cases checked <;> simp [Except.map]

/-- A place does not matter to a value. -/
theorem Checked.within_eq_ok {checked : Checked α} {step : Step} {value : α} :
    checked.within step = .ok value ↔ checked = .ok value := by
  cases checked <;> simp [Checked.within]

/-- Every item of a list was read. -/
theorem exists_of_mem_itemsFrom {read : Json τ → Checked α} {items : List (Json τ)} {index : Nat}
    {values : List α} (taken : Checked.itemsFrom index (items.map read) = .ok values) :
    ∀ value ∈ values, ∃ json, read json = .ok value := by
  induction items generalizing index values with
  | nil =>
    cases taken
    exact List.forall_mem_nil _
  | cons item items ih =>
    rw [List.map_cons, Checked.itemsFrom, map_eq_ok] at taken
    obtain ⟨⟨first, rest⟩, both, rfl⟩ := taken
    obtain ⟨head, tail⟩ := Checked.and_eq_ok.mp both
    intro value member
    rcases List.mem_cons.mp member with rfl | member
    · exact ⟨item, Checked.within_eq_ok.mp head⟩
    · exact ih tail value member

/-- Every item of a list that was taken in was read. -/
theorem exists_of_mem_list {read : Json τ → Checked α} {json : Json τ} {values : List α}
    (taken : list read json = .ok values) : ∀ value ∈ values, ∃ item, read item = .ok value := by
  cases json with
  | array items => exact exists_of_mem_itemsFrom taken
  | _ => contradiction

variable [Wording τ]

section Fields

variable [DecidableEq τ]

/-- A field that must be there was read. -/
theorem exists_of_required {fields : List (τ × Json τ)} {key : Key} {read : Json τ → Checked α}
    {value : α} (taken : required fields key read = .ok value) :
    ∃ json, read json = .ok value := by
  unfold required at taken
  cases found : key.find? fields with
  | none => simp [found, Checked.fail, Checked.within] at taken
  | some field => exact ⟨field.2, Checked.within_eq_ok.mp (by simpa [found] using taken)⟩

/-- A field that may be missing has the usual value or was read. -/
theorem eq_or_exists_of_optional {fields : List (τ × Json τ)} {key : Key} {default : α}
    {read : Json τ → Checked α} {value : α} (taken : optional fields key default read = .ok value) :
    value = default ∨ ∃ json, read json = .ok value := by
  unfold optional at taken
  cases found : key.find? fields with
  | none =>
    rw [found] at taken
    exact .inl (Except.ok.inj taken).symm
  | some field => exact .inr ⟨field.2, Checked.within_eq_ok.mp (by simpa [found] using taken)⟩

/-- Every item of a field that may be missing was read, if usually there is none. -/
theorem exists_of_mem_optional {fields : List (τ × Json τ)} {key : Key}
    {read : Json τ → Checked α} {values : List α}
    (taken : optional fields key [] (list read) = .ok values) :
    ∀ value ∈ values, ∃ json, read json = .ok value := by
  rcases eq_or_exists_of_optional taken with rfl | ⟨json, listed⟩
  · exact List.forall_mem_nil _
  · exact exists_of_mem_list listed

end Fields

/-- The characters of a text are those that it has. -/
theorem unicode?_of_characters {text : τ} {plain : String}
    (read : characters text = .ok plain) : Wording.unicode? text = some plain := by
  unfold characters at read
  split at read
  · rename_i found
    rw [found, Except.ok.inj read]
  · contradiction

/-- A text that is taken in as not empty is a name. -/
theorem isName_of_nonEmptyText {json : Json τ} {value : τ}
    (taken : nonEmptyText json = .ok value) : Wording.IsName value := by
  obtain ⟨given, _, taken⟩ := Checked.bind_eq_ok.mp taken
  obtain ⟨plain, read, taken⟩ := Checked.bind_eq_ok.mp taken
  by_cases empty : plain.isEmpty = true
  · rw [if_pos empty] at taken
    contradiction
  · rw [if_neg empty] at taken
    cases taken
    exact ⟨plain, unicode?_of_characters read, by simpa using empty⟩

/-- A line that is taken in is at least one. -/
theorem one_le_of_lineNumber {json : Json τ} {value : Nat} (taken : lineNumber json = .ok value) :
    1 ≤ value := by
  obtain ⟨given, _, taken⟩ := Checked.bind_eq_ok.mp taken
  by_cases positive : 1 ≤ given
  · rw [if_pos positive] at taken
    have same : given.toNat = value := Except.ok.inj taken
    omega
  · rw [if_neg positive] at taken
    contradiction

/-! ## What is given back -/

omit [Wording τ] in
/-- Items that each read as themselves read as a list of them. -/
theorem itemsFrom_map {read : Json τ → Checked α} {form : α → Json τ} {values : List α}
    (back : ∀ value ∈ values, read (form value) = .ok value) (index : Nat) :
    Checked.itemsFrom index ((values.map form).map read) = .ok values := by
  induction values generalizing index with
  | nil => rfl
  | cons value values ih =>
    have rest := ih (fun value member => back value (.tail _ member)) (index + 1)
    rw [List.map_cons, List.map_cons, Checked.itemsFrom, back value (.head _), rest]
    rfl

/-- The form of a list reads as the list if the forms of its items read as them. -/
theorem list_spelled {read : Json τ → Checked α} {form : α → Json τ} {values : List α}
    (spelling : Spelling)
    (back : ∀ value ∈ values, read ((form value).spelled spelling) = .ok value) :
    list read ((Json.array (values.map form)).spelled spelling) = .ok values := by
  rw [Json.spelled, Json.spelledItems_map]
  exact itemsFrom_map back 0

end Intake

open Intake

variable [Wording τ]

section Validity

/-! ## Validity -/

variable [DecidableEq τ] {json : Json τ}

/-- A place that is taken in is valid. -/
theorem Location.valid_of_ofJson {location : Location τ}
    (taken : Location.ofJson json = .ok location) : location.Valid := by
  obtain ⟨fields, _, taken⟩ := Checked.bind_eq_ok.mp taken
  obtain ⟨⟨file, startLine, endLine⟩, parts, taken⟩ := Checked.bind_eq_ok.mp taken
  simp only [Checked.and_eq_ok] at parts
  obtain ⟨_, started, _⟩ := parts
  obtain ⟨given, read⟩ := exists_of_required started
  by_cases reversed : endLine < startLine
  · simp only [if_pos reversed] at taken
    contradiction
  · simp only [if_neg reversed] at taken
    cases taken
    exact ⟨one_le_of_lineNumber read, Nat.not_lt.mp reversed⟩

/-- A function that is taken in is valid. -/
theorem Function.valid_of_ofJson {function : Function τ}
    (taken : Function.ofJson json = .ok function) : function.Valid := by
  obtain ⟨fields, _, taken⟩ := Checked.bind_eq_ok.mp taken
  obtain ⟨_, parts, taken⟩ := Checked.bind_eq_ok.mp taken
  simp only [Checked.and_eq_ok] at parts
  cases taken
  obtain ⟨named, _, _, _, _, placed⟩ := parts
  obtain ⟨_, name⟩ := exists_of_required named
  obtain ⟨_, location⟩ := exists_of_required placed
  exact ⟨isName_of_nonEmptyText name, Location.valid_of_ofJson location⟩

/-- A class that is taken in is valid. -/
theorem Class.valid_of_ofJson {cls : Class τ} (taken : Class.ofJson json = .ok cls) :
    cls.Valid := by
  obtain ⟨fields, _, taken⟩ := Checked.bind_eq_ok.mp taken
  obtain ⟨_, parts, taken⟩ := Checked.bind_eq_ok.mp taken
  simp only [Checked.and_eq_ok] at parts
  cases taken
  obtain ⟨named, methods, _, _, placed, _⟩ := parts
  obtain ⟨_, name⟩ := exists_of_required named
  obtain ⟨_, location⟩ := exists_of_required placed
  refine ⟨isName_of_nonEmptyText name, Location.valid_of_ofJson location, ?_⟩
  intro method member
  obtain ⟨_, read⟩ := exists_of_mem_optional methods method member
  exact Function.valid_of_ofJson read

/-- An analysis that is taken in is valid. -/
theorem Analysis.valid_of_ofJson {analysis : Analysis τ}
    (taken : Analysis.ofJson json = .ok analysis) : analysis.Valid := by
  obtain ⟨fields, _, taken⟩ := Checked.bind_eq_ok.mp taken
  obtain ⟨_, parts, taken⟩ := Checked.bind_eq_ok.mp taken
  simp only [Checked.and_eq_ok] at parts
  cases taken
  refine ⟨fun function member => ?_, fun cls member => ?_⟩
  · obtain ⟨_, read⟩ := exists_of_mem_optional parts.1 function member
    exact Function.valid_of_ofJson read
  · obtain ⟨_, read⟩ := exists_of_mem_optional parts.2 cls member
    exact Class.valid_of_ofJson read

/-- The result of a project that is taken in is valid. -/
theorem ProjectAnalysis.valid_of_ofJson {project : ProjectAnalysis τ}
    (taken : ProjectAnalysis.ofJson json = .ok project) : project.result.Valid := by
  obtain ⟨fields, _, taken⟩ := Checked.bind_eq_ok.mp taken
  obtain ⟨_, parts, taken⟩ := Checked.bind_eq_ok.mp taken
  simp only [Checked.and_eq_ok] at parts
  cases taken
  rcases eq_or_exists_of_optional parts.1 with usual | ⟨_, read⟩
  · rw [usual]
    exact ⟨List.forall_mem_nil _, List.forall_mem_nil _⟩
  · exact Analysis.valid_of_ofJson read

end Validity

/-! ## Forms that are taken in -/

/-- What comes of a value that is had. -/
@[simp]
theorem Intake.ok_bind {α β : Type} (value : α) (next : α → Checked β) :
    ((Except.ok value : Checked α) >>= next) = next value := rfl

/-- What is made of a value that is had. -/
@[simp]
theorem Intake.ok_map {α β : Type} (value : α) (make : α → β) :
    make <$> (Except.ok value : Checked α) = .ok (make value) := rfl

/-- Two values that are had. -/
@[simp]
theorem Intake.ok_and_ok {α β : Type} (first : α) (second : β) :
    Checked.and (.ok first) (.ok second) = .ok (first, second) := rfl

/-- A value that is had at a place. -/
@[simp]
theorem Intake.within_ok {α : Type} (step : Step) (value : α) :
    Checked.within step (.ok value) = .ok value := rfl

omit [Wording τ] in
/-- The fields of an object are taken in as they are. -/
@[simp]
theorem Intake.record_object (fields : List (τ × Json τ)) :
    record (.object fields) = .ok fields := rfl

omit [Wording τ] in
/-- A text is taken in as it is. -/
@[simp]
theorem Intake.text_string (value : τ) : text (.string value) = .ok value := rfl

/-- An integer is taken in as it is. -/
@[simp]
theorem Intake.integer_int (value : Int) : integer (.int value : Json τ) = .ok value := rfl

omit [Wording τ] in
/-- A text that could have been null is taken in as it is. -/
@[simp]
theorem Intake.nullable_string (value : τ) :
    nullable text (.string value) = .ok (some value) := rfl

/-- A name is taken in as it is. -/
theorem Intake.nonEmptyText_string {value : τ} (named : Wording.IsName value) :
    nonEmptyText (.string value) = .ok value := by
  obtain ⟨plain, found, occupied⟩ := named
  have some : ¬ plain.isEmpty = true := by simpa using occupied
  rw [nonEmptyText, text_string, ok_bind, characters, Option.mem_def.mp found, ok_bind,
    if_neg some]
  rfl

/-- A line that is at least one is taken in as it is. -/
theorem Intake.lineNumber_int {value : Nat} (positive : 1 ≤ value) :
    lineNumber (.int value : Json τ) = .ok value := by
  have given : (1 : Int) ≤ value := by omega
  exact if_pos given

variable [DecidableEq τ] (spelling : Spelling)

/-- A valid place is taken in from its form. -/
theorem Location.ofJson_spelled {location : Location τ} (valid : location.Valid) :
    Location.ofJson (location.toJson.spelled spelling) = .ok location := by
  obtain ⟨file, startLine, endLine⟩ := location
  obtain ⟨positive, ordered⟩ : 1 ≤ startLine ∧ startLine ≤ endLine := valid
  have starts : lineNumber (.int startLine : Json τ) = .ok startLine := lineNumber_int positive
  have ends : lineNumber (.int endLine : Json τ) = .ok endLine :=
    lineNumber_int (Nat.le_trans positive ordered)
  have forward : ¬ endLine < startLine := by omega
  cases spelling <;>
    simp [ofJson, toJson, required, Key.find?, Key.single, Json.lookup, starts, ends, forward, pure,
      Except.pure]

/-- A parameter is taken in from its form. -/
theorem Parameter.ofJson_spelled (parameter : Parameter τ) :
    Parameter.ofJson (parameter.toJson.spelled spelling) = .ok parameter := by
  cases spelling <;>
    simp [ofJson, toJson, required, Intake.optional, Key.find?, Key.single, Json.lookup]

/-- A valid function is taken in from its form. -/
theorem Function.ofJson_spelled {function : Function τ} (valid : function.Valid) :
    Function.ofJson (function.toJson.spelled spelling) = .ok function := by
  obtain ⟨name, parameters, returnType, body, documentation, location⟩ := function
  obtain ⟨called, placed⟩ : Wording.IsName name ∧ location.Valid := valid
  have named := nonEmptyText_string called
  have listed := list_spelled spelling fun parameter (_ : parameter ∈ parameters) =>
    Parameter.ofJson_spelled spelling parameter
  have located := Location.ofJson_spelled spelling placed
  rw [Json.spelled] at listed
  cases spelling <;> cases body <;>
    simp [ofJson, toJson, Json.optionalField, required, Intake.optional, Key.find?, Key.single,
      Json.lookup, named, listed, located]

/-- A property is taken in from its form. -/
theorem Property.ofJson_spelled (property : Property τ) :
    Property.ofJson (property.toJson.spelled spelling) = .ok property := by
  cases spelling <;>
    simp [ofJson, toJson, required, Intake.optional, Key.find?, Key.single, Json.lookup]

/-- A valid class is taken in from its form. -/
theorem Class.ofJson_spelled {cls : Class τ} (valid : cls.Valid) :
    Class.ofJson (cls.toJson.spelled spelling) = .ok cls := by
  obtain ⟨name, methods, properties, documentation, location, note⟩ := cls
  obtain ⟨called, placed, each⟩ :
    Wording.IsName name ∧ location.Valid ∧ ∀ method ∈ methods, method.Valid := valid
  have named := nonEmptyText_string called
  have acting := list_spelled spelling fun method member =>
    Function.ofJson_spelled spelling (each method member)
  have having := list_spelled spelling fun property (_ : property ∈ properties) =>
    Property.ofJson_spelled spelling property
  have located := Location.ofJson_spelled spelling placed
  rw [Json.spelled] at acting having
  cases spelling <;> cases note <;>
    simp [ofJson, toJson, Json.optionalField, required, Intake.optional, Key.find?, Key.single,
      Json.lookup, named, acting, having, located]

/-- A valid analysis is taken in from its form. -/
theorem Analysis.ofJson_spelled {analysis : Analysis τ} (valid : analysis.Valid) :
    Analysis.ofJson (analysis.toJson.spelled spelling) = .ok analysis := by
  obtain ⟨functions, classes⟩ := analysis
  have first := list_spelled spelling fun function member =>
    Function.ofJson_spelled spelling (valid.1 function member)
  have second := list_spelled spelling fun cls member =>
    Class.ofJson_spelled spelling (valid.2 cls member)
  rw [Json.spelled] at first second
  cases spelling <;>
    simp [ofJson, toJson, Intake.optional, Key.find?, Key.single, Json.lookup, first, second]

/-- A failure is taken in from its form. -/
theorem FileFailure.ofJson_spelled (failure : FileFailure τ) :
    FileFailure.ofJson (failure.toJson.spelled spelling) = .ok failure := by
  cases spelling <;>
    simp [ofJson, toJson, required, Key.find?, Key.single, Json.lookup]

/-- The analysis of a project with a valid result is taken in from its form. -/
theorem ProjectAnalysis.ofJson_spelled {project : ProjectAnalysis τ}
    (valid : project.result.Valid) :
    ProjectAnalysis.ofJson (project.toJson.spelled spelling) = .ok project := by
  obtain ⟨result, failures, filesScanned, filesAnalyzed⟩ := project
  have found := Analysis.ofJson_spelled spelling valid
  have failed := list_spelled spelling fun failure (_ : failure ∈ failures) =>
    FileFailure.ofJson_spelled spelling failure
  rw [Json.spelled] at failed
  cases spelling <;>
    simp [ofJson, toJson, Intake.optional, Key.find?, Key.single, Json.lookup, found, failed]

end CodeAtlas
