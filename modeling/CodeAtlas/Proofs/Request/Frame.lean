import CodeAtlas.Depth
import CodeAtlas.Proofs.Reply.Object
import CodeAtlas.Proofs.Request.Body
import CodeAtlas.Proofs.Request.Readable

/-!
# What a context keeps

The context of a value has the records of its functions and classes, in order, and everything else
as it was. A record keeps what it is about field by field; a body becomes a short text and a place
loses its directories. This holds of every value of the expected shape that can be copied, and of
every analysis: `context_keeps`.
-/
namespace CodeAtlas

namespace Json

variable {fields : List (String × Json)} {name : String} {value : Json}

/-- The first field of a name counts. -/
theorem lookup_cons (first : String) (value : Json) (rest : List (String × Json)) (name : String) :
    lookup ((first, value) :: rest) name =
      if first = name then some value else lookup rest name := by
  by_cases same : first = name <;> simp [lookup, same]

/-- A field that is set has its new value, and the others have theirs. -/
theorem lookup_put (fields : List (String × Json)) (name other : String) (value : Json) :
    lookup (put fields name value) other =
      if name = other then some value else lookup fields other := by
  induction fields with
  | nil => exact lookup_cons name value [] other
  | cons field rest ih =>
    obtain ⟨first, old⟩ := field
    unfold put
    by_cases here : first = name
    · by_cases asked : name = other <;> simp [lookup_cons, here, asked]
    · rw [if_neg here, lookup_cons, lookup_cons, ih]
      by_cases asked : first = other
      · have apart : name ≠ other := fun same => here (asked.trans same.symm)
        rw [if_pos asked, if_neg apart, if_pos asked]
      · rw [if_neg asked, if_neg asked]

/-- A field that is set keeps its place, and a new one comes last. -/
theorem names_put (fields : List (String × Json)) (name : String) (value : Json) :
    (put fields name value).map (·.1) =
      fields.map (·.1) ++ if name ∈ fields.map (·.1) then [] else [name] := by
  induction fields with
  | nil => rfl
  | cons field rest ih =>
    obtain ⟨first, old⟩ := field
    unfold put
    by_cases here : first = name
    · simp [here]
    · have known : name ∈ ((first, old) :: rest).map (·.1) ↔ name ∈ rest.map (·.1) := by
        rw [List.map_cons, List.mem_cons, or_iff_right (Ne.symm here)]
      simp only [here, if_false, known]
      rw [List.map_cons, ih, List.map_cons, List.cons_append]

/-- A field that is looked up has a name among those of the fields. -/
theorem mem_names_of_lookup (found : lookup fields name = some value) :
    name ∈ fields.map (·.1) := by
  obtain ⟨field, first, -⟩ := Option.map_eq_some_iff.mp found
  have same := List.find?_some first
  rw [beq_iff_eq] at same
  rw [← same]
  exact List.mem_map_of_mem (List.mem_of_find?_eq_some first)

end Json

namespace Request

/-! ## Shapes of values -/

/-- The value of a field, if there is one, has a property. -/
def FieldIs (fields : List (String × Json)) (name : String) (property : Json → Prop) : Prop :=
  ∀ value, Json.lookup fields name = some value → property value

/-- A field that is missing has every property. -/
theorem fieldIs_of_missing {fields : List (String × Json)} {name : String}
    {property : Json → Prop} (missing : Json.lookup fields name = none) :
    FieldIs fields name property := by
  intro value found
  cases missing.symm.trans found

/-- A value is nothing or a text. -/
def BodyShape (body : Json) : Prop := body = .null ∨ ∃ text, body = .string text

/-- A value is nothing or an object whose file, if it has one, is a text. -/
def PlaceShape (place : Json) : Prop :=
  place = .null ∨ ∃ fields, place = .object fields ∧
    FieldIs fields "file" fun file => ∃ text, file = .string text

/-- A value is an object with a body, if it has one. -/
inductive MethodShape : Json → Prop where
  | object {fields : List (String × Json)} (body : FieldIs fields "body" BodyShape) :
    MethodShape (.object fields)

/-- A value is an object with a body and a place, if it has them. -/
inductive FunctionShape : Json → Prop where
  | object {fields : List (String × Json)} (body : FieldIs fields "body" BodyShape)
    (location : FieldIs fields "location" PlaceShape) : FunctionShape (.object fields)

/-- A value is an object with a list of methods and a place, if it has them. -/
inductive ClassShape : Json → Prop where
  | object {fields : List (String × Json)}
    (methods : FieldIs fields "methods" fun methods =>
      ∃ items, methods = .array items ∧ ∀ item ∈ items, MethodShape item)
    (location : FieldIs fields "location" PlaceShape) : ClassShape (.object fields)

/-- A value is an object; its functions and classes, where these are lists, have their shapes. -/
inductive ContextShape : Json → Prop where
  | object {fields : List (String × Json)}
    (functions : ∀ items, Json.lookup fields "functions" = some (.array items) →
      ∀ item ∈ items, FunctionShape item)
    (classes : ∀ items, Json.lookup fields "classes" = some (.array items) →
      ∀ item ∈ items, ClassShape item) : ContextShape (.object fields)

/-! ## What is kept of them -/

/-- Sent fields hold the given ones that a table names, and the value of the table for those that
are missing. -/
def Copies (table given sent : List (String × Json)) : Prop :=
  ∀ entry ∈ table, Json.lookup sent entry.1 =
    some ((Json.lookup given entry.1).getD entry.2)

/-- The fields that functions and methods keep. -/
def signature : List (String × Json) :=
  [("name", .null), ("parameters", .array []), ("returnType", .null), ("documentation", .string "")]

/-- The fields that classes keep. -/
def outline : List (String × Json) :=
  [("name", .null), ("properties", .array []), ("documentation", .string "")]

/-- The body among fields, if there is one. -/
def bodyOf (fields : List (String × Json)) : Option String :=
  match Json.lookup fields "body" with
  | some (.string body) => some body
  | _ => none

/-- The methods among fields; if they are missing there are none. -/
def methodsOf (fields : List (String × Json)) : List Json :=
  match Json.lookup fields "methods" with
  | some (.array methods) => methods
  | _ => []

/-- Sent fields have a text that stands for the given body. -/
def BodyKept (given sent : List (String × Json)) : Prop :=
  ∃ text, Json.lookup sent "body" = some (.string text) ∧ StandsFor text (bodyOf given)

/-- A place is reduced to the last name of its file and its lines; one that says nothing is left
out. -/
inductive PlaceReduced : Option Json → Json → Prop where
  | missing : PlaceReduced none .null
  | null : PlaceReduced (some .null) .null
  | empty : PlaceReduced (some (.object [])) .null
  | reduced {fields : List (String × Json)} (occupied : fields ≠ []) {file : String}
    (named : (Json.lookup fields "file").getD (.string "") = .string file) :
    PlaceReduced (some (.object fields)) (.object
      [("file", .string (Path.ofString file).name),
        ("startLine", (Json.lookup fields "startLine").getD .null),
        ("endLine", (Json.lookup fields "endLine").getD .null)])

/-- Sent fields have the given place, reduced. -/
def PlaceKept (given sent : List (String × Json)) : Prop :=
  ∃ place, Json.lookup sent "location" = some place ∧
    PlaceReduced (Json.lookup given "location") place

/-- A record of a method keeps its signature and has a text for its body, and nothing else. -/
inductive MethodKept : Json → Json → Prop where
  | record {given sent : List (String × Json)}
    (names : sent.map (·.1) = ["name", "parameters", "returnType", "body", "documentation"])
    (copies : Copies signature given sent) (body : BodyKept given sent) :
    MethodKept (.object given) (.object sent)

/-- A record of a function keeps its signature, has a text for its body and its place reduced, and
nothing else. -/
inductive FunctionKept : Json → Json → Prop where
  | record {given sent : List (String × Json)}
    (names : sent.map (·.1) =
      ["name", "parameters", "returnType", "body", "documentation", "location"])
    (copies : Copies signature given sent) (body : BodyKept given sent)
    (place : PlaceKept given sent) : FunctionKept (.object given) (.object sent)

/-- A record of a class keeps its outline and its note, if that says something, has the records of
its methods in order and its place reduced, and nothing else. -/
inductive ClassKept : Json → Json → Prop where
  | record {given sent : List (String × Json)} {records : List Json}
    (names : sent.map (·.1) = ["name", "methods", "properties", "documentation", "location"] ++
      if (Json.lookup given "note").any Json.isTruthy then ["note"] else [])
    (copies : Copies outline given sent)
    (methods : Json.lookup sent "methods" = some (.array records))
    (each : List.Forall₂ MethodKept (methodsOf given) records)
    (place : PlaceKept given sent)
    (note : Json.lookup sent "note" = (Json.lookup given "note").filter Json.isTruthy) :
    ClassKept (.object given) (.object sent)

/-- A field that holds a list of items holds a record of each, in order; otherwise it is as it
was. -/
structure ItemsKept (kept : Json → Json → Prop) (name : String)
    (given sent : List (String × Json)) : Prop where
  /-- A list becomes a list of records. -/
  records : ∀ items, Json.lookup given name = some (.array items) →
    ∃ records, Json.lookup sent name = some (.array records) ∧ List.Forall₂ kept items records
  /-- What is no list stays. -/
  other : (∀ items, Json.lookup given name ≠ some (.array items)) →
    Json.lookup sent name = Json.lookup given name

/-- A context has the records of the functions and classes of a value, a record of how it was made,
and all other fields of the value as they were, in their places. -/
inductive ContextKept (moment : String) : Json → Json → Prop where
  | context {given sent : List (String × Json)}
    (names : sent.map (·.1) =
      given.map (·.1) ++ if "_meta" ∈ given.map (·.1) then [] else ["_meta"])
    (functions : ItemsKept FunctionKept "functions" given sent)
    (classes : ItemsKept ClassKept "classes" given sent)
    (record : Json.lookup sent "_meta" = some (contextRecord moment))
    (others : ∀ name, name ∉ ["functions", "classes", "_meta"] →
      Json.lookup sent name = Json.lookup given name) :
    ContextKept moment (.object given) (.object sent)

/-! ## Records -/

variable {fields : List (String × Json)}

/-- A body of the expected shape is sent as a text that stands for it. -/
theorem exists_sentBody (shaped : FieldIs fields "body" BodyShape) :
    ∃ text, sentBody (fieldOr .null fields "body") = .ok (.string text) ∧
      StandsFor text (bodyOf fields) := by
  have sent := bodies_compacted.2 (bodyOf fields)
  have same : fieldOr .null fields "body" = (bodyOf fields).elim .null .string := by
    unfold fieldOr bodyOf
    cases found : Json.lookup fields "body" with
    | none => rfl
    | some body => obtain rfl | ⟨text, rfl⟩ := shaped body found <;> rfl
  rw [same]
  exact ⟨_, sent⟩

/-- A place of the expected shape is sent reduced. -/
theorem exists_sentPlace (shaped : FieldIs fields "location" PlaceShape) :
    ∃ place, sentPlace (fieldOr .null fields "location") = .ok place ∧
      PlaceReduced (Json.lookup fields "location") place := by
  unfold fieldOr
  cases found : Json.lookup fields "location" with
  | none => exact ⟨_, rfl, .missing⟩
  | some place =>
    obtain rfl | ⟨inner, rfl, file⟩ := shaped place found
    · exact ⟨_, rfl, .null⟩
    cases inner with
    | nil => exact ⟨_, rfl, .empty⟩
    | cons first rest =>
      obtain ⟨text, named⟩ : ∃ text,
          (Json.lookup (first :: rest) "file").getD (.string "") = .string text := by
        cases given : Json.lookup (first :: rest) "file" with
        | none => exact ⟨"", rfl⟩
        | some value =>
          obtain ⟨text, rfl⟩ := file value given
          exact ⟨text, rfl⟩
      refine ⟨_, ?_, .reduced (List.cons_ne_nil first rest) named⟩
      simp [sentPlace, Json.isTruthy, fieldsOf, fieldOr, named, bind, Except.bind]

/-- The fields that are sent of methods and functions alike, with a text for the body. -/
def signatureFields (given : List (String × Json)) (body : String) : List (String × Json) :=
  [("name", fieldOr .null given "name"), ("parameters", fieldOr (.array []) given "parameters"),
    ("returnType", fieldOr .null given "returnType"), ("body", .string body),
    ("documentation", fieldOr (.string "") given "documentation")]

/-- They keep the signature, whatever fields follow them. -/
theorem copies_signatureFields (given rest : List (String × Json)) (body : String) :
    Copies signature given (signatureFields given body ++ rest) := by
  simp [Copies, signature, signatureFields, Json.lookup_cons, fieldOr]

/-- A method of the expected shape has a record. -/
theorem exists_sentMethod {method : Json} (shaped : MethodShape method) :
    ∃ record, sentMethod method = .ok record ∧ MethodKept method record := by
  obtain @⟨given, bodyShaped⟩ := shaped
  obtain ⟨text, sent, stands⟩ := exists_sentBody bodyShaped
  refine ⟨.object (signatureFields given text), ?_, .record rfl ?_ ⟨text, rfl, stands⟩⟩
  · simp only [sentMethod, fieldsOf, sent, bind, Except.bind]
    rfl
  · simpa using copies_signatureFields given [] text

/-- A function of the expected shape has a record. -/
theorem exists_sentFunction {function : Json} (shaped : FunctionShape function) :
    ∃ record, sentFunction function = .ok record ∧ FunctionKept function record := by
  obtain @⟨given, bodyShaped, placeShaped⟩ := shaped
  obtain ⟨text, sent, stands⟩ := exists_sentBody bodyShaped
  obtain ⟨place, placed, reduced⟩ := exists_sentPlace placeShaped
  refine ⟨.object (signatureFields given text ++ [("location", place)]), ?_,
    .record rfl (copies_signatureFields given _ text) ⟨text, rfl, stands⟩ ⟨place, rfl, reduced⟩⟩
  simp only [sentFunction, fieldsOf, sent, placed, bind, Except.bind]
  rfl

/-- A note is sent if it says something. -/
theorem exists_noteFields (given : List (String × Json)) : ∃ note : List (String × Json),
    (if (fieldOr .null given "note").isTruthy then [("note", fieldOr .null given "note")] else []) =
      note ∧
    note.map (·.1) = (if (Json.lookup given "note").any Json.isTruthy then ["note"] else []) ∧
    Json.lookup note "note" = (Json.lookup given "note").filter Json.isTruthy := by
  refine ⟨_, rfl, ?_⟩
  unfold fieldOr
  cases found : Json.lookup given "note" with
  | none => exact ⟨rfl, rfl⟩
  | some note => cases telling : note.isTruthy <;> simp [telling, Json.lookup, Option.filter]

/-- A class of the expected shape has a record. -/
theorem exists_sentClass {cls : Json} (shaped : ClassShape cls) :
    ∃ record, sentClass cls = .ok record ∧ ClassKept cls record := by
  obtain @⟨given, methodsShaped, placeShaped⟩ := shaped
  obtain ⟨place, placed, reduced⟩ := exists_sentPlace placeShaped
  obtain ⟨note, noted, named, kept⟩ := exists_noteFields given
  have members : elements (fieldOr (.array []) given "methods") = .ok (methodsOf given) ∧
      ∀ method ∈ methodsOf given, MethodShape method := by
    unfold fieldOr methodsOf
    cases found : Json.lookup given "methods" with
    | none => exact ⟨rfl, List.forall_mem_nil _⟩
    | some methods =>
      obtain ⟨items, rfl, each⟩ := methodsShaped methods found
      exact ⟨rfl, each⟩
  obtain ⟨records, made, each⟩ :=
    exists_mapM fun method member => exists_sentMethod (members.2 method member)
  refine ⟨.object ([("name", fieldOr .null given "name"), ("methods", .array records),
      ("properties", fieldOr (.array []) given "properties"),
      ("documentation", fieldOr (.string "") given "documentation"), ("location", place)] ++ note),
    ?_, .record ?_ ?_ rfl each ⟨place, rfl, reduced⟩ kept⟩
  · simp only [sentClass, fieldsOf, members.1, made, placed, noted, bind, Except.bind]
    rfl
  · rw [List.map_append, named]
    rfl
  · simp [Copies, outline, Json.lookup_cons, fieldOr]

/-! ## Contexts -/

/-- Changing the items of a list by what makes a record of each keeps the names of fields and all
other fields. -/
theorem exists_changeItems {change : Json → Except ContextFault Json} {kept : Json → Json → Prop}
    {name : String} (each : ∀ items, Json.lookup fields name = some (.array items) →
      ∀ item ∈ items, ∃ record, change item = .ok record ∧ kept item record) :
    ∃ sent, changeItems name change fields = .ok sent ∧ sent.map (·.1) = fields.map (·.1) ∧
      ItemsKept kept name fields sent ∧
      ∀ other, other ≠ name → Json.lookup sent other = Json.lookup fields other := by
  unfold changeItems
  split
  · rename_i items found
    obtain ⟨records, made, related⟩ := exists_mapM (each items found)
    refine ⟨Json.put fields name (.array records), ?_, ?_, ⟨?_, ?_⟩, ?_⟩
    · rw [made]
      rfl
    · rw [Json.names_put, if_pos (Json.mem_names_of_lookup found), List.append_nil]
    · intro others same
      obtain rfl : items = others := by simpa using found.symm.trans same
      exact ⟨records, by rw [Json.lookup_put, if_pos rfl], related⟩
    · exact fun none => absurd found (none items)
    · intro other apart
      rw [Json.lookup_put, if_neg apart.symm]
  · rename_i unlisted
    exact ⟨fields, rfl, rfl, ⟨fun items found => absurd found (unlisted items), fun _ => rfl⟩,
      fun _ _ => rfl⟩

/-- A copy of the expected shape has a context, which keeps what it should. -/
theorem exists_contextOfCopy (moment : String) {copy : Json} (shaped : ContextShape copy) :
    ∃ sent, contextOfCopy moment copy = .ok sent ∧ ContextKept moment copy sent := by
  obtain @⟨given, functionsShaped, classesShaped⟩ := shaped
  obtain ⟨middle, changed, names, functions, untouched⟩ :=
    exists_changeItems fun items found item member =>
      exists_sentFunction (functionsShaped items found item member)
  have listed := untouched "classes" (by decide)
  have classesMade (items : List Json)
      (found : Json.lookup middle "classes" = some (.array items)) :
      ∀ item ∈ items, ∃ record, sentClass item = .ok record ∧ ClassKept item record :=
    fun item member => exists_sentClass (classesShaped items (listed ▸ found) item member)
  obtain ⟨last, finished, sameNames, classes, unmoved⟩ := exists_changeItems classesMade
  -- Neither the classes nor the record of the context touch the functions.
  have after (name : String) (apart : name ≠ "_meta") :
      Json.lookup (Json.put last "_meta" (contextRecord moment)) name = Json.lookup last name := by
    rw [Json.lookup_put, if_neg apart.symm]
  refine ⟨.object (Json.put last "_meta" (contextRecord moment)), ?_, .context ?_ ⟨?_, ?_⟩
    ⟨?_, ?_⟩ ?_ ?_⟩
  · simp only [contextOfCopy, fieldsOf, changed, finished, bind, Except.bind]
    rfl
  · rw [Json.names_put, sameNames, names]
  · intro items found
    rw [after _ (by decide), unmoved _ (by decide)]
    exact functions.records items found
  · intro unlisted
    rw [after _ (by decide), unmoved _ (by decide)]
    exact functions.other unlisted
  · intro items found
    rw [after _ (by decide)]
    exact classes.records items (listed.trans found)
  · intro unlisted
    rw [after _ (by decide), ← listed]
    exact classes.other (listed ▸ unlisted)
  · rw [Json.lookup_put, if_pos rfl]
  · intro name other
    simp only [List.mem_cons, List.not_mem_nil, or_false, not_or] at other
    rw [after name other.2.2, unmoved name other.2.1, untouched name other.1]

/-! ## Contexts of analyses -/

/-- The form of a place has the expected shape. -/
theorem placeShape_toJson (location : Location) : PlaceShape location.toJson := by
  refine .inr ⟨_, rfl, fun file found => ⟨location.file, ?_⟩⟩
  simpa [Json.lookup] using found.symm

/-- The form of a function has a body and a place of the expected shape. -/
theorem exists_fields_function (function : Function) :
    ∃ fields, function.toJson = .object fields ∧ FieldIs fields "body" BodyShape ∧
      FieldIs fields "location" PlaceShape := by
  refine ⟨_, rfl, fun body found => ?_, fun place found => ?_⟩
  · cases given : function.body with
    | none => simp [given, Json.optionalField, Json.lookup] at found
    | some text =>
      rw [given] at found
      obtain rfl := Option.some.inj found
      exact .inr ⟨text, rfl⟩
  · have same : function.location.toJson = place := by
      cases given : function.body <;>
        simpa [given, Json.optionalField, Json.lookup] using found
    rw [← same]
    exact placeShape_toJson function.location

/-- The form of a class has the expected shape. -/
theorem classShape_toJson (cls : Class) : ClassShape cls.toJson := by
  refine .object (fun methods found => ?_) (fun place found => ?_)
  · obtain rfl := Option.some.inj found
    refine ⟨_, rfl, List.forall_mem_map.mpr fun method _ => ?_⟩
    obtain ⟨fields, form, body, -⟩ := exists_fields_function method
    rw [form]
    exact .object body
  · obtain rfl := Option.some.inj found
    exact placeShape_toJson cls.location

/-- The form of an analysis has the expected shape. -/
theorem contextShape_toJson (analysis : Analysis) : ContextShape analysis.toJson := by
  refine .object (fun items found => ?_) (fun items found => ?_)
  · obtain rfl := Json.array.inj (Option.some.inj found)
    refine List.forall_mem_map.mpr fun function _ => ?_
    obtain ⟨fields, form, body, location⟩ := exists_fields_function function
    rw [form]
    exact .object body location
  · obtain rfl := Json.array.inj (Option.some.inj found)
    exact List.forall_mem_map.mpr fun cls _ => classShape_toJson cls

/-- The context of a value of the expected shape that can be copied keeps what it should, and so
does the context of every analysis, which is its record. -/
theorem context_keeps (copying : Depth) (moment : String) {value : Json}
    (copied : withinLevels copying.levels value = true) (shaped : ContextShape value) :
    (∃ sent, context copying.levels moment value = .ok sent ∧ ContextKept moment value sent) ∧
      ∀ analysis : Analysis,
        context copying.levels moment analysis.toJson = .ok (analysisRecord moment analysis) ∧
          ContextKept moment analysis.toJson (analysisRecord moment analysis) := by
  have kept {given : Json} (copied : withinLevels copying.levels given = true)
      (shaped : ContextShape given) :
      ∃ sent, context copying.levels moment given = .ok sent ∧ ContextKept moment given sent := by
    rw [context, if_pos copied]
    exact exists_contextOfCopy moment shaped
  refine ⟨kept copied shaped, fun analysis => ?_⟩
  have made := context_toJson copying.roomy moment analysis
  obtain ⟨sent, same, keeps⟩ :=
    kept (withinLevels_analysis copying.roomy analysis) (contextShape_toJson analysis)
  obtain rfl := Except.ok.inj (made.symm.trans same)
  exact ⟨made, keeps⟩

/-- A context that is not an analysis: it has further fields, a function without a body and without
a place, and a class with a method whose body is nothing. -/
def looseContext : Json :=
  .object
    [("extra", .array [.int 1]), ("functions", .array [.object [("name", .string "f")]]),
      ("classes", .array [.object
        [("methods", .array [.object [("body", .null)]]), ("note", .string "n"),
          ("location", .object [("file", .string "/a/b.ts")])]])]

/-- The context of such a value keeps what it should. -/
theorem context_looseContext :
    withinLevels Depth.least.levels looseContext = true ∧ ContextShape looseContext ∧
      ∃ sent, context Depth.least.levels "now" looseContext = .ok sent ∧
        ContextKept "now" looseContext sent := by
  have copied : withinLevels Depth.least.levels looseContext = true := by
    simp [looseContext, withinLevels, Depth.least]
  have shaped : ContextShape looseContext := by
    refine .object (fun items found => ?_) (fun items found => ?_)
    · obtain rfl := Json.array.inj (Option.some.inj found)
      exact List.forall_mem_singleton.mpr
        (.object (fieldIs_of_missing rfl) (fieldIs_of_missing rfl))
    · obtain rfl := Json.array.inj (Option.some.inj found)
      refine List.forall_mem_singleton.mpr (.object (fun methods found => ?_)
        (fun place found => ?_))
      · obtain rfl := Option.some.inj found
        refine ⟨_, rfl, List.forall_mem_singleton.mpr (.object fun body found => ?_)⟩
        obtain rfl := Option.some.inj found
        exact .inl rfl
      · obtain rfl := Option.some.inj found
        refine .inr ⟨_, rfl, fun file found => ?_⟩
        obtain rfl := Option.some.inj found
        exact ⟨_, rfl⟩
  exact ⟨copied, shaped, (context_keeps .least "now" copied shaped).1⟩

/-- A context with a further field that is nested deeply. -/
def deepContext : Json := .object [("extra", Reply.nested 600)]

/-- The deeply nested context has the expected shape, but it cannot be copied within 500 levels. -/
theorem context_deepContext_fails :
    ContextShape deepContext ∧ ∀ levels, levels ≤ 500 → ∀ moment sent,
      context levels moment deepContext ≠ .ok sent := by
  have shaped : ContextShape deepContext := by
    refine .object (fun items found => ?_) (fun items found => ?_)
    · cases found
    · cases found
  refine ⟨shaped, fun levels few moment sent made => ?_⟩
  have copied : withinLevels levels deepContext = true := by
    by_contra deep
    rw [context, if_neg deep] at made
    cases made
  have held : Json.Held 602 deepContext :=
    .object (by decide)
      (List.forall_mem_singleton.mpr ((Reply.held_nested_iff 600).mpr (by decide)))
  cases held.within copied with
  | object _ each =>
    have inner := (Reply.held_nested_iff 600).mp (each _ (.head _))
    omega

end Request

end CodeAtlas
