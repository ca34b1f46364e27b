import CodeAtlas.Proofs.Dialogue.Conversation

/-!
# What reaches the model

The conversations about chunks set off contexts that hold, joined, a record of each function and one
record or several of each class, in order. A function that does not fit has lost its body; a class
that does not fit has shared its methods out among its records: `survey_conveys`.
-/
namespace CodeAtlas

open Chunk Request Dialogue Survey

/-! ## Records in contexts -/

/-- The records of a kind in a context, or in a record. -/
def Request.recordsOf (kind : String) (context : Json) : List Json :=
  match context.get? kind with
  | some (.array records) => records
  | _ => []

/-- The context of an analysis holds the records of its functions. -/
theorem Request.recordsOf_functions (moment : String) (analysis : Analysis) :
    recordsOf "functions" (analysisRecord moment analysis) =
      analysis.functions.map fun function => functionRecord function (bodyText function) :=
  rfl

/-- The context of an analysis holds the records of its classes. -/
theorem Request.recordsOf_classes (moment : String) (analysis : Analysis) :
    recordsOf "classes" (analysisRecord moment analysis) = analysis.classes.map classRecord :=
  rfl

/-- The record of a class holds the records of its methods. -/
theorem Request.recordsOf_methods (cls : Class) :
    recordsOf "methods" (classRecord cls) = cls.methods.map methodRecord :=
  rfl

/-- A record renders a function or a method: it has all that the function has, with a text for its
body. -/
structure Request.Renders (function : Function) (body : String) (record : Json) : Prop where
  /-- The record has the name of the function. -/
  name : record.get? "name" = some (.string function.name)
  /-- The record has the parameters of the function in order. -/
  parameters : record.get? "parameters" =
    some (.array (function.parameters.map Parameter.toJson))
  /-- The record has the type that the function returns. -/
  returnType : record.get? "returnType" = some (.string function.returnType)
  /-- The record has the documentation of the function. -/
  documentation : record.get? "documentation" = some (.string function.documentation)
  /-- The record has the text for the body. -/
  body : record.get? "body" = some (.string body)

/-- The record of a function renders it. -/
theorem Request.renders_functionRecord (function : Function) (body : String) :
    Renders function body (functionRecord function body) :=
  ⟨rfl, rfl, rfl, rfl, rfl⟩

/-- The record of a method renders it with its compacted body. -/
theorem Request.renders_methodRecord (method : Function) :
    Renders method (essential (method.body.getD "")) (methodRecord method) :=
  ⟨rfl, rfl, rfl, rfl, rfl⟩

/-- The records of methods render them one after the other. -/
theorem Request.forall₂_renders_methods (methods : List Function) :
    List.Forall₂ (fun method => Renders method (essential (method.body.getD ""))) methods
      (methods.map methodRecord) := by
  rw [List.forall₂_map_right_iff, List.forall₂_same]
  exact fun method _ => renders_methodRecord method

namespace Chunker

variable (chunker : Chunker)

/-- A class with methods that does not fit into a chunk is split. -/
def Splits (cls : Class) : Prop :=
  chunker.budget.units < chunker.classSize cls ∧ cls.methods ≠ []

/-- Records convey a class: each of them has all that the class has but methods, and together they
render each of its methods once and in order. A class that is split has numbered records, and any
other has one. -/
structure Conveys (cls : Class) (records : List Json) : Prop where
  /-- There is a record. -/
  exists_record : records ≠ []
  /-- The records have the name of the class. -/
  name : ∀ record ∈ records, record.get? "name" = some (.string cls.name)
  /-- The records have the properties of the class. -/
  properties : ∀ record ∈ records,
    record.get? "properties" = some (.array (cls.properties.map Property.toJson))
  /-- The records have the documentation of the class. -/
  documentation : ∀ record ∈ records,
    record.get? "documentation" = some (.string cls.documentation)
  /-- The records have the place of the class. -/
  location : ∀ record ∈ records, record.get? "location" = some (placeRecord cls.location)
  /-- The records render the methods of the class in order, with their compacted bodies. -/
  methods : List.Forall₂ (fun method => Renders method (essential (method.body.getD "")))
    cls.methods (records.flatMap (recordsOf "methods"))
  /-- A class that is not split has its own record. -/
  whole : ¬chunker.Splits cls → records = [classRecord cls]
  /-- The records of a class that is split are numbered. -/
  numbered : chunker.Splits cls → ∀ (index : Nat) (record : Json),
    records[index]? = some record →
      record.get? "note" = some (.string (partNote (index + 1) records.length))

variable {chunker}

/-- The record of a class that is not split conveys it. -/
theorem conveys_whole {cls : Class} (fits : ¬chunker.Splits cls) :
    chunker.Conveys cls [classRecord cls] where
  exists_record := List.cons_ne_nil _ _
  name := List.forall_mem_singleton.mpr rfl
  properties := List.forall_mem_singleton.mpr rfl
  documentation := List.forall_mem_singleton.mpr rfl
  location := List.forall_mem_singleton.mpr rfl
  methods := by
    rw [List.flatMap_singleton, recordsOf_methods]
    exact forall₂_renders_methods cls.methods
  whole _ := rfl
  numbered splits := absurd splits fits

/-- The record of a part of a class, with some of its methods. -/
def partRecord (cls : Class) (count index : Nat) (methods : List Function) : Json :=
  classRecord { cls with methods, note := some (partNote (index + 1) count) }

/-- The record of a part has its number. -/
theorem get?_note_partRecord (cls : Class) (count index : Nat) (methods : List Function) :
    (partRecord cls count index methods).get? "note" =
      some (.string (partNote (index + 1) count)) := by
  have occupied : partNote (index + 1) count ≠ "" := by simp [partNote]
  simp [partRecord, classRecord, noteFields, occupied, Json.get?, Json.lookup]

/-- The records of the parts of a class that is split convey it. -/
theorem conveys_parts {cls : Class} {parts : List Class} (splits : chunker.Splits cls)
    (shared : Parts cls parts) : chunker.Conveys cls (parts.map classRecord) := by
  obtain ⟨groups, occupied, _, joined, rfl⟩ := shared
  have placed : (groups.mapIdx fun index methods =>
      ({ cls with methods, note := some (partNote (index + 1) groups.length) } : Class)).map
        classRecord = groups.mapIdx (partRecord cls groups.length) := by
    refine List.ext_getElem? fun index => ?_
    rw [List.getElem?_map, List.getElem?_mapIdx, List.getElem?_mapIdx, Option.map_map]
    rfl
  have methods : (groups.mapIdx (partRecord cls groups.length)).map (recordsOf "methods") =
      groups.map (·.map methodRecord) := by
    refine List.ext_getElem? fun index => ?_
    rw [List.getElem?_map, List.getElem?_mapIdx, List.getElem?_map, Option.map_map]
    rfl
  rw [placed]
  have every {field : String} {value : Json}
      (same : ∀ index methods,
        (partRecord cls groups.length index methods).get? field = some value) :
      ∀ record ∈ groups.mapIdx (partRecord cls groups.length), record.get? field = some value := by
    intro record member
    obtain ⟨index, inside, rfl⟩ := List.mem_mapIdx.mp member
    exact same index groups[index]
  exact {
    exists_record := by simpa using occupied
    name := every fun _ _ => rfl
    properties := every fun _ _ => rfl
    documentation := every fun _ _ => rfl
    location := every fun _ _ => rfl
    methods := by
      rw [List.flatMap_def, methods, ← List.map_flatten, joined]
      exact forall₂_renders_methods cls.methods
    whole := fun fits => absurd splits fits
    numbered := by
      intro _ index record found
      rw [List.getElem?_mapIdx] at found
      obtain ⟨methods, _, rfl⟩ := Option.map_eq_some_iff.mp found
      rw [List.length_mapIdx]
      exact get?_note_partRecord cls groups.length index methods }

/-- The records of a class convey it. -/
theorem conveys_classRecords (chunker : Chunker) (cls : Class) :
    chunker.Conveys cls ((chunker.classRecords chunker.budget cls).map classRecord) := by
  rw [classRecords_eq]
  by_cases splits : chunker.budget.units < chunker.classSize cls ∧ cls.methods ≠ []
  · rw [if_pos splits]
    exact conveys_parts splits (chunker.split_parts chunker.budget splits.2)
  · rw [if_neg splits]
    exact conveys_whole splits

/-- The record of a function that is sent has the text for a body that is too large, or its
compacted body. -/
theorem functionRecord_sent (chunker : Chunker) (function : Function) :
    Request.functionRecord (chunker.functionRecord chunker.budget function)
        (bodyText (chunker.functionRecord chunker.budget function)) =
      Request.functionRecord function
        (if chunker.budget.units < chunker.functionSize function then truncatedBody
        else essential (function.body.getD "")) := by
  unfold functionRecord
  by_cases heavy : chunker.budget.units < chunker.functionSize function
  · rw [if_pos heavy, if_pos heavy, bodyText, truncate, Option.getD_some, essential_truncatedBody]
    rfl
  · rw [if_neg heavy, if_neg heavy]
    rfl

/-! ## Contexts of chunks -/

variable (chunker : Chunker) (analysis : Analysis) (moment : String)

/-- The contexts of the chunks of an analysis. -/
def contexts : List Json :=
  (chunker.chunkWithin chunker.budget analysis).map (analysisRecord moment)

/-- The contexts of chunks hold the records of all functions in order. -/
theorem flatMap_functions_contexts :
    (chunker.contexts analysis moment).flatMap (recordsOf "functions") =
      analysis.functions.map fun function => Request.functionRecord function
        (if chunker.budget.units < chunker.functionSize function then truncatedBody
        else essential (function.body.getD "")) := by
  have joined := chunker.flatMap_records_functions chunker.budget analysis
  rw [← chunkWithin_eq_records] at joined
  calc
    _ = (chunker.chunkWithin chunker.budget analysis).flatMap fun chunk =>
        chunk.functions.map fun function =>
          Request.functionRecord function (bodyText function) := by
      simp only [contexts, List.flatMap_map, recordsOf_functions]
    _ = (analysis.functions.map (chunker.functionRecord chunker.budget)).map fun function =>
        Request.functionRecord function (bodyText function) := by
      rw [← joined, List.map_flatMap]
    _ = _ := by
      rw [List.map_map]
      exact congrArg (analysis.functions.map ·) (funext chunker.functionRecord_sent)

/-- The contexts of chunks hold the records of all classes in order. -/
theorem flatMap_classes_contexts :
    (chunker.contexts analysis moment).flatMap (recordsOf "classes") =
      (analysis.classes.map fun cls =>
        (chunker.classRecords chunker.budget cls).map classRecord).flatten := by
  have joined := chunker.flatMap_records_classes chunker.budget analysis
  rw [← chunkWithin_eq_records] at joined
  calc
    _ = (chunker.chunkWithin chunker.budget analysis).flatMap fun chunk =>
        chunk.classes.map classRecord := by
      simp only [contexts, List.flatMap_map, recordsOf_classes]
    _ = (analysis.classes.flatMap (chunker.classRecords chunker.budget)).map classRecord := by
      rw [← joined, List.map_flatMap]
    _ = _ := by
      rw [List.map_flatMap, List.flatMap_def]

end Chunker

namespace Dialogue.Client

variable {σ : Type} (client : Client σ) (chunker : Chunker) (analysis : Analysis)

/-- The conversations between the first and the last of a survey are about the chunks in order. -/
theorem map_exchange_inquiries :
    (inquiries chunker analysis client.moment).map Inquiry.exchange =
      (inquiry client.moment (overviewQuestion analysis) analysis).exchange ::
        (chunker.chunkWithin chunker.budget analysis).map (fun chunk =>
          (inquiry client.moment (componentQuestion chunk) chunk).exchange) ++
            [(inquiry client.moment (dependencyQuestion analysis) analysis).exchange] := by
  simp only [inquiries, List.map_append, List.map_cons, List.map_nil, List.map_map]
  rfl

/-- The conversations between the first and the last of a survey that is made set off contexts that
render, joined, each function in order, with the text for a body that is too large or with its
compacted body, and hold the records that convey each class in order. -/
theorem survey_conveys {session : Session σ} {survey : Survey}
    (made : (client.survey chunker analysis session).1 = .ok survey) :
    ∃ (first : Exchange) (middle : List Exchange) (last : Exchange) (contexts : List Json),
      (client.survey chunker analysis session).2.exchanges =
        session.exchanges ++ first :: middle ++ [last] ∧
      List.Forall₂ (fun exchange context => SetsOff exchange.user componentPrompt context)
        middle contexts ∧
      List.Forall₂ (fun function record =>
          Renders function (if chunker.budget.units < chunker.functionSize function then
            truncatedBody else essential (function.body.getD "")) record ∧
          record.get? "location" = some (placeRecord function.location))
        analysis.functions (contexts.flatMap (recordsOf "functions")) ∧
      ∃ blocks : List (List Json), contexts.flatMap (recordsOf "classes") = blocks.flatten ∧
        List.Forall₂ chunker.Conveys analysis.classes blocks := by
  obtain ⟨sendable, exchanges⟩ := exchanges_of_survey session made
  refine ⟨(inquiry client.moment (overviewQuestion analysis) analysis).exchange,
    (chunker.chunkWithin chunker.budget analysis).map (fun chunk =>
      (inquiry client.moment (componentQuestion chunk) chunk).exchange),
    (inquiry client.moment (dependencyQuestion analysis) analysis).exchange,
    chunker.contexts analysis client.moment, ?_, ?_, ?_, _,
    chunker.flatMap_classes_contexts analysis client.moment, ?_⟩
  · rw [exchanges, map_exchange_inquiries, List.append_assoc]
  · rw [Chunker.contexts, List.forall₂_map_left_iff, List.forall₂_map_right_iff, List.forall₂_same]
    exact fun chunk member => (asks_inquiry client.moment (componentQuestion chunk)
      (chunker.chunkWithin_sendable sendable chunk member)).2
  · rw [chunker.flatMap_functions_contexts, List.forall₂_map_right_iff, List.forall₂_same]
    exact fun function _ => ⟨renders_functionRecord function _, rfl⟩
  · rw [List.forall₂_map_right_iff, List.forall₂_same]
    exact fun cls _ => chunker.conveys_classRecords cls

/-- In chunks that have room for no entity the function loses its body, and the class with three
methods is split and conveyed whole, in two conversations. -/
theorem survey_conveys_mixedAnalysis :
    (scripted.survey narrow mixedAnalysis ⟨[], fourReplies⟩).1 =
        .ok ⟨.object [], [component, moduleAnalysis], .object []⟩ ∧
      ∃ (first : Exchange) (middle : List Exchange) (last : Exchange) (contexts : List Json)
          (record : Json),
        (scripted.survey narrow mixedAnalysis ⟨[], fourReplies⟩).2.exchanges =
          first :: middle ++ [last] ∧
        List.Forall₂ (fun exchange context => SetsOff exchange.user componentPrompt context)
          middle contexts ∧
        contexts.flatMap (recordsOf "functions") = [record] ∧
        record.get? "body" = some (.string truncatedBody) ∧
        narrow.Conveys (Chunker.methodsClass "C" ["f", "g", "h"])
          (contexts.flatMap (recordsOf "classes")) := by
  have made : (scripted.survey narrow mixedAnalysis ⟨[], fourReplies⟩).1 =
      .ok ⟨.object [], [component, moduleAnalysis], .object []⟩ := by
    rw [survey_accepted ⟨[], fourReplies⟩ mixedAnalysis_sendable verdicts_fourReplies]
    rfl
  obtain ⟨first, middle, last, contexts, exchanges, set, functions, blocks, classes, conveyed⟩ :=
    scripted.survey_conveys narrow mixedAnalysis made
  obtain ⟨record, rendered, only⟩ : ∃ record : Json,
      record.get? "body" = some (.string truncatedBody) ∧
        contexts.flatMap (recordsOf "functions") = [record] := by
    cases joined : contexts.flatMap (recordsOf "functions") with
    | nil =>
      rw [joined] at functions
      cases functions
    | cons record others =>
      rw [joined] at functions
      cases functions with
      | cons head tail =>
        cases tail
        exact ⟨record, head.1.body, rfl⟩
  refine ⟨made, first, middle, last, contexts, record, exchanges, set, only, rendered, ?_⟩
  cases conveyed with
  | cons head tail =>
    cases tail
    rw [classes, List.flatten_singleton]
    exact head

end Dialogue.Client

end CodeAtlas
