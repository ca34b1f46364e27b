import CodeAtlas.Reply.Contract

/-!
# What the contract asks for

The contract said in terms of values and fields, without an order in which they are looked at. The
checks find no fault exactly in the values that keep it: `rejection?_eq_none_iff`.
-/
namespace CodeAtlas.Reply

/-! ## Fields and items -/

/-- A value is an object. -/
def IsObject (value : Json) : Prop := ∃ fields, value = .object fields

/-- A field is there. -/
def Present (item : Json) (field : String) : Prop := ∃ value, item.get? field = some value

/-- A field is there and counts as true. -/
def Filled (item : Json) (field : String) : Prop :=
  ∃ value, item.get? field = some value ∧ value.isTruthy = true

/-- A field is there and is a list. -/
def Listed (item : Json) (field : String) : Prop := ∃ items, item.get? field = some (.array items)

/-- A field is a list, unless it is missing or null. -/
def ListedIfGiven (item : Json) (field : String) : Prop :=
  ∀ value, item.get? field = some value → value = .null ∨ ∃ items, value = .array items

/-- An item is as the contract asks of its kind. -/
def ItemKind.Fits (kind : ItemKind) (item : Json) : Prop :=
  IsObject item ∧
    match kind with
    | .component => Filled item "type" ∧ Filled item "name" ∧ Filled item "description"
    | .function =>
      Present item "name" ∧ Present item "description" ∧ Present item "returnType" ∧
        Listed item "parameters"
    | .cls => Present item "name" ∧ Listed item "methods" ∧ Listed item "properties"
    | .module =>
      Filled item "name" ∧ Filled item "description" ∧ ListedIfGiven item "imports" ∧
        ListedIfGiven item "exports" ∧ ListedIfGiven item "dependencies"

/-- A list is there. -/
theorem Listed.present {item : Json} {field : String} (listed : Listed item field) :
    Present item field := by
  obtain ⟨items, found⟩ := listed
  exact ⟨_, found⟩

/-- A value is a list exactly if it is made of items. -/
theorem isList_iff {value : Json} : isList value = true ↔ ∃ items, value = .array items := by
  cases value <;> simp [isList]

/-- A required field counts as present as the shape asks. -/
theorem Shape.hasField_iff {shape : Shape} {item : Json} {field : String} :
    shape.hasField item field = true ↔
      if shape.filled then Filled item field else Present item field := by
  unfold hasField
  split
  · simp [Filled, Option.any_eq_true]
  · simp [Present, Option.isSome_iff_exists]

/-- A field is a list exactly if the check says so. -/
theorem any_isList_iff {item : Json} {field : String} :
    (item.get? field).any isList = true ↔ Listed item field := by
  simp only [Listed, Option.any_eq_true, isList_iff]
  constructor
  · rintro ⟨_, found, items, rfl⟩
    exact ⟨items, found⟩
  · rintro ⟨items, found⟩
    exact ⟨_, found, items, rfl⟩

/-- A field is a list or nothing exactly if the check says so. -/
theorem listOrNothing_iff {item : Json} {field : String} :
    listOrNothing item field = true ↔ ListedIfGiven item field := by
  unfold listOrNothing ListedIfGiven
  split <;> simp_all [isList_iff]

/-- An object has no violation exactly if it has the fields of its shape. -/
theorem itemViolation?_object (kind : ItemKind) (fields : List (String × Json)) :
    itemViolation? kind (.object fields) = none ↔
      (∀ field ∈ kind.shape.required, kind.shape.hasField (.object fields) field = true) ∧
      (∀ field ∈ kind.shape.lists, Listed (.object fields) field) ∧
      ∀ field ∈ kind.shape.optionalLists, ListedIfGiven (.object fields) field := by
  simp only [itemViolation?, Option.orElse_eq_orElse, Option.orElse_eq_or, Option.or_eq_none_iff,
    Option.map_eq_none_iff, List.find?_eq_none, Bool.not_eq_true', Bool.not_eq_false,
    any_isList_iff, listOrNothing_iff]

/-- An item has no violation exactly if it fits. -/
theorem itemViolation?_eq_none_iff {kind : ItemKind} {item : Json} :
    itemViolation? kind item = none ↔ kind.Fits item := by
  cases item with
  | object fields =>
    have object : IsObject (.object fields) := ⟨fields, rfl⟩
    rw [itemViolation?_object]
    cases kind with
    | component =>
      simp [ItemKind.Fits, ItemKind.shape, Shape.hasField_iff, object]
    | function =>
      simp only [ItemKind.Fits, ItemKind.shape, Shape.hasField_iff, object, List.forall_mem_cons]
      constructor
      · rintro ⟨⟨name, description, _, returnType, _⟩, ⟨parameters, _⟩, _⟩
        exact ⟨trivial, name, description, returnType, parameters⟩
      · rintro ⟨_, name, description, returnType, parameters⟩
        exact ⟨⟨name, description, parameters.present, returnType, List.forall_mem_nil _⟩,
          ⟨parameters, List.forall_mem_nil _⟩, List.forall_mem_nil _⟩
    | cls =>
      simp only [ItemKind.Fits, ItemKind.shape, Shape.hasField_iff, object, List.forall_mem_cons]
      constructor
      · rintro ⟨⟨name, _, _, _⟩, ⟨methods, properties, _⟩, _⟩
        exact ⟨trivial, name, methods, properties⟩
      · rintro ⟨_, name, methods, properties⟩
        exact ⟨⟨name, methods.present, properties.present, List.forall_mem_nil _⟩,
          ⟨methods, properties, List.forall_mem_nil _⟩, List.forall_mem_nil _⟩
    | module =>
      simp [ItemKind.Fits, ItemKind.shape, Shape.hasField_iff, object, and_assoc]
  | _ => simp [itemViolation?, ItemKind.Fits, IsObject]

/-- Items have no rejection exactly if each of them fits. -/
theorem itemsRejection?_eq_none_iff {kind : ItemKind} {items : List Json} :
    itemsRejection? kind items = none ↔ ∀ item ∈ items, kind.Fits item := by
  simp [itemsRejection?, List.findSome?_eq_none_iff, itemViolation?_eq_none_iff]

/-! ## Analyses and replies -/

/-- A section that counts as true is a list of items that fit. -/
def Section.Kept (part : Section) (analysis : Json) : Prop :=
  ∀ value, analysis.get? part.name = some value → value.isTruthy = true →
    ∃ items, value = .array items ∧ ∀ item ∈ items, part.itemKind.Fits item

/-- A section is a list with items. -/
def Section.Occupied (part : Section) (analysis : Json) : Prop :=
  ∃ first rest, analysis.get? part.name = some (.array (first :: rest))

/-- A value is an analysis as the contract asks: it keeps every section and has items in one. -/
structure AnalysisFits (value : Json) : Prop where
  /-- It is an object. -/
  object : IsObject value
  /-- Every section that counts as true is a list of items that fit. -/
  kept : ∀ part : Section, part.Kept value
  /-- A section has items. -/
  occupied : ∃ part : Section, part.Occupied value

/-- A section has no rejection exactly if it is kept. -/
theorem sectionRejection?_eq_none_iff {analysis : Json} {part : Section} :
    sectionRejection? analysis part = none ↔ part.Kept analysis := by
  unfold sectionRejection? Section.Kept
  cases analysis.get? part.name with
  | none => simp
  | some value =>
    by_cases truthy : value.isTruthy = true
    · cases value <;> simp_all [itemsRejection?_eq_none_iff]
    · simp [truthy]

/-- Every section is looked at. -/
theorem Section.mem_all (part : Section) : part ∈ all := by
  cases part <;> decide

/-- A kept section holds something exactly if it has items. -/
theorem Section.Kept.hasContent_iff {analysis : Json} {part : Section} (kept : part.Kept analysis) :
    hasContent analysis part = true ↔ part.Occupied analysis := by
  simp only [hasContent, Option.any_eq_true]
  constructor
  · rintro ⟨value, found, truthy⟩
    obtain ⟨items, rfl, _⟩ := kept value found truthy
    cases items with
    | nil => contradiction
    | cons first rest => exact ⟨first, rest, found⟩
  · rintro ⟨first, rest, found⟩
    exact ⟨_, found, rfl⟩

/-- An object has no rejection as an analysis exactly if it fits. -/
theorem analysisRejection?_eq_none_iff {reply analysis : Json} (object : IsObject analysis) :
    analysisRejection? reply analysis = none ↔ AnalysisFits analysis := by
  have sections : Section.all.findSome? (sectionRejection? analysis) = none ↔
      ∀ part : Section, part.Kept analysis := by
    simp [List.findSome?_eq_none_iff, sectionRejection?_eq_none_iff, Section.mem_all]
  unfold analysisRejection?
  cases found : Section.all.findSome? (sectionRejection? analysis) with
  | some rejection =>
    simp only [reduceCtorEq, false_iff]
    intro fits
    rw [sections.mpr fits.kept] at found
    contradiction
  | none =>
    have kept := sections.mp found
    have content : Section.all.any (hasContent analysis) = true ↔
        ∃ part : Section, part.Occupied analysis := by
      simp [List.any_eq_true, Section.mem_all, (kept _).hasContent_iff]
    dsimp only
    split
    · rename_i occupied
      simpa using ⟨object, kept, content.mp occupied⟩
    · rename_i vacant
      simp only [reduceCtorEq, false_iff]
      exact fun fits => vacant (content.mpr fits.occupied)

/-- A reply to a question without a form of its own is accepted exactly if it has a list of
components that fit, or no list of components and an analysis that fits. -/
theorem rejection?_eq_none_iff {format : Option Json} {reply : Json}
    (plain : asksForm format = false) :
    rejection? format reply = none ↔
      (∃ items, reply.get? "components" = some (.array items) ∧
        ∀ item ∈ items, ItemKind.component.Fits item) ∨
      (¬Listed reply "components" ∧
        ∃ analysis, reply.get? "analysis" = some analysis ∧ AnalysisFits analysis) := by
  cases reply with
  | object fields =>
    simp only [rejection?, plain, Bool.false_eq_true, ↓reduceIte]
    split
    · rename_i items found
      simp [itemsRejection?_eq_none_iff, Listed, found]
    · rename_i unlisted
      have none : ∀ items, (Json.object fields).get? "components" ≠ some (.array items) := unlisted
      have missing : ¬Listed (.object fields) "components" := fun ⟨items, found⟩ => none items found
      split
      · rename_i inner found
        simp [analysisRejection?_eq_none_iff ⟨inner, rfl⟩, none, missing, found]
      · rename_i shapeless
        simp only [reduceCtorEq, none, false_and, exists_false, false_or, false_iff]
        rintro ⟨_, analysis, found, fits⟩
        obtain ⟨inner, rfl⟩ := fits.object
        exact shapeless inner found
  | _ => simp [rejection?, Json.get?]

end CodeAtlas.Reply
