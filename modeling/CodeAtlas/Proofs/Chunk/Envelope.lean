import CodeAtlas.Proofs.Chunk.Payload
import CodeAtlas.Proofs.Chunk.Splitting
import Mathlib.GroupTheory.GroupAction.Ring

/-!
# Payloads and texts of chunks

A payload counts the entities of a chunk one by one; what is sent is one text, with brackets, names
and commas around them. Compact texts do not depend on where they stand, so that the text of a chunk
is its entities and an envelope of known length: `length_text_functions`, `length_text_classes`.
Counted in tokens, a part of four characters is counted as a whole one, once for each entity in the
payload and once in the text, which is why either may be the larger one: `text_near_payload`.
-/
namespace CodeAtlas

namespace Json

/-! ## Compact texts -/

/-- Compact texts have no line breaks. -/
theorem lineBreak_compact (level : Nat) : lineBreak .compact level = [] := rfl

mutual

/-- A compact text does not depend on its level. -/
theorem write_compact (level : Nat) (json : Json) :
    write .compact level json = write .compact 0 json := by
  cases json with
  | array items =>
    cases items with
    | nil => rw [write_array_nil, write_array_nil]
    | cons item items =>
      rw [write_array_cons, write_array_cons, write_compact (level + 1) item,
        write_compact (0 + 1) item, writeItems_compact (level + 1) items,
        writeItems_compact (0 + 1) items, lineBreak_compact, lineBreak_compact, lineBreak_compact,
        lineBreak_compact]
  | object fields =>
    cases fields with
    | nil => rw [write_object_nil, write_object_nil]
    | cons field fields =>
      obtain ⟨name, value⟩ := field
      rw [write_object_cons, write_object_cons, write_compact (level + 1) value,
        write_compact (0 + 1) value, writeFields_compact (level + 1) fields,
        writeFields_compact (0 + 1) fields, lineBreak_compact, lineBreak_compact,
        lineBreak_compact, lineBreak_compact]
  | bool value => cases value <;> rw [write, write]
  | _ => rw [write, write]

/-- Compact texts of further items do not depend on their level. -/
theorem writeItems_compact (level : Nat) (items : List Json) :
    writeItems .compact level items = writeItems .compact 0 items := by
  cases items with
  | nil => rw [writeItems, writeItems]
  | cons item items =>
    rw [writeItems, writeItems, write_compact level item, writeItems_compact level items,
      lineBreak_compact, lineBreak_compact]

/-- Compact texts of further fields do not depend on their level. -/
theorem writeFields_compact (level : Nat) (fields : List (String × Json)) :
    writeFields .compact level fields = writeFields .compact 0 fields := by
  cases fields with
  | nil => rw [writeFields, writeFields]
  | cons field fields =>
    obtain ⟨name, value⟩ := field
    rw [writeFields, writeFields, write_compact level value, writeFields_compact level fields,
      lineBreak_compact, lineBreak_compact]

end

open Chunk (total)

/-- Further items are written with a comma each. -/
theorem length_writeItems_compact (level : Nat) (items : List Json) :
    (writeItems .compact level items).length =
      total (Chunk.sizeOf String.length) items + items.length := by
  induction items with
  | nil => rw [writeItems]; rfl
  | cons item items ih =>
    have comma : Layout.compact.comma.toList.length = 1 := rfl
    rw [writeItems, write_compact, lineBreak_compact, List.length_append, List.length_append,
      List.length_append, comma, ih, total, Chunker.sizeOf_length, List.length_cons,
      List.length_nil]
    omega

/-- Items are written between brackets, with commas between them. -/
theorem length_write_array_compact (level : Nat) {items : List Json} (some : items ≠ []) :
    (write .compact level (.array items)).length =
      total (Chunk.sizeOf String.length) items + items.length + 1 := by
  cases items with
  | nil => exact absurd rfl some
  | cons item items =>
    rw [write_array_cons, write_compact, lineBreak_compact, lineBreak_compact]
    simp only [List.length_append, List.length_cons, List.length_nil, length_writeItems_compact,
      total, Chunker.sizeOf_length]
    omega

/-- Two fields of lists are written with their names. -/
theorem length_write_lists_compact (first second : String) (firsts seconds : List Json) :
    (write .compact 0 (.object [(first, .array firsts), (second, .array seconds)])).length =
      (writeString false first).length + (write .compact 0 (.array firsts)).length +
        (writeString false second).length + (write .compact 0 (.array seconds)).length + 5 := by
  have comma : Layout.compact.comma.toList.length = 1 := rfl
  have colon : Layout.compact.colon.toList.length = 1 := rfl
  have escaped : Layout.compact.ascii = false := rfl
  rw [write_object_cons, writeFields, writeFields, write_compact, write_compact (0 + 1),
    lineBreak_compact, lineBreak_compact, escaped]
  simp only [List.length_append, List.length_cons, List.length_nil, comma, colon]
  omega

end Json

namespace Chunk

variable {α β : Type}

/-- Values made of items weigh what is made of them weighs. -/
theorem total_map (weigh : β → Nat) (make : α → β) (items : List α) :
    total weigh (items.map make) = total (fun item => weigh (make item)) items := by
  induction items with
  | nil => rfl
  | cons item items ih => rw [List.map_cons, total, total, ih]

/-- Counting each weight in whole fours adds at most three for each item. -/
theorem total_fours_bounds {weigh fours : α → Nat}
    (rounded : ∀ item, fours item = (weigh item + 3) / 4) (items : List α) :
    total weigh items ≤ 4 * total fours items ∧
      4 * total fours items ≤ total weigh items + 3 * items.length := by
  induction items with
  | nil => exact ⟨Nat.le_refl 0, Nat.le_refl 0⟩
  | cons item items ih =>
    have here := rounded item
    rw [total, total, List.length_cons]
    omega

end Chunk

namespace Analysis

/-- The number of entities. -/
def count (analysis : Analysis) : Nat := analysis.functions.length + analysis.classes.length

/-- The compact text. -/
def compact (analysis : Analysis) : String := analysis.toJson.text .compact

end Analysis

namespace Chunker

open Chunk

/-- A chunker that counts tokens. -/
def standard : Chunker := ⟨.standard, tokens⟩

/-- The text of a chunk is as long as the texts of its lists with their names. -/
theorem length_compact (chunk : Analysis) :
    chunk.compact.length =
      (Json.write .compact 0 (.array (chunk.functions.map Function.toJson))).length +
        (Json.write .compact 0 (.array (chunk.classes.map Class.toJson))).length + 25 := by
  have functions : (Json.writeString false "functions").length = 11 := by decide +kernel
  have classes : (Json.writeString false "classes").length = 9 := by decide +kernel
  rw [Analysis.compact, Json.text, String.length_ofList, Analysis.toJson,
    Json.length_write_lists_compact, Wording.ofString_string, Wording.ofString_string, functions,
    classes]
  omega

/-- The list of entities of a kind that has none is written as two brackets. -/
theorem length_write_none : (Json.write .compact 0 (.array [])).length = 2 := by
  rw [Json.write_array_nil]
  rfl

/-- The list of the entities of a kind that has some is written with a character for each of them
and one more. -/
theorem length_write_some {α : Type} (toJson : α → Json) {entities : List α}
    (some : entities ≠ []) :
    (Json.write .compact 0 (.array (entities.map toJson))).length =
      total (fun entity => sizeOf String.length (toJson entity)) entities +
        entities.length + 1 := by
  have occupied : entities.map toJson ≠ [] := by simpa using some
  rw [Json.length_write_array_compact 0 occupied, total_map, List.length_map]

/-- The text of a chunk of one kind of entities is longer than the texts of its entities by an
envelope of twenty-eight characters and one for each entity. -/
theorem length_compact_eq {chunk : Analysis} (some : chunk.isEmpty = false)
    (kind : chunk.functions = [] ∨ chunk.classes = []) :
    chunk.compact.length = characters.payloadSize chunk + chunk.count + 28 := by
  obtain ⟨functions, classes⟩ := chunk
  have sizes : characters.payloadSize ⟨functions, classes⟩ =
      total (fun function => sizeOf String.length function.toJson) functions +
        total (fun cls => sizeOf String.length cls.toJson) classes :=
    rfl
  rw [length_compact, sizes, Analysis.count]
  rcases kind with none | none <;> obtain rfl := none
  · have occupied : classes ≠ [] := by simpa [Analysis.isEmpty] using some
    rw [List.map_nil, length_write_none, length_write_some _ occupied, total]
    simp only [List.length_nil]
    omega
  · have occupied : functions ≠ [] := by simpa [Analysis.isEmpty] using some
    rw [List.map_nil, length_write_none, length_write_some _ occupied, total]
    simp only [List.length_nil]
    omega

/-- The size of a function in tokens is a fourth of that in characters. -/
theorem functionSize_standard (function : Function) :
    standard.functionSize function = (characters.functionSize function + 3) / 4 := by
  simp only [functionSize, Chunk.sizeOf, standard, characters, tokens]

/-- The size of a class in tokens is a fourth of that in characters. -/
theorem classSize_standard (cls : Class) :
    standard.classSize cls = (characters.classSize cls + 3) / 4 := by
  simp only [classSize, Chunk.sizeOf, standard, characters, tokens]

/-- The payload of a chunk in tokens is that in characters, rounded up for each entity. -/
theorem payloadSize_standard_bounds (chunk : Analysis) :
    characters.payloadSize chunk ≤ 4 * standard.payloadSize chunk ∧
      4 * standard.payloadSize chunk ≤ characters.payloadSize chunk + 3 * chunk.count := by
  have functions := total_fours_bounds functionSize_standard chunk.functions
  have classes := total_fours_bounds classSize_standard chunk.classes
  rw [payloadSize, payloadSize, Analysis.count]
  omega

/-- How the text of a chunk measures up to its payload. -/
structure Measured (chunk : Analysis) : Prop where
  /-- The text has an envelope of twenty-eight characters and one for each entity. -/
  length_eq : chunk.compact.length = characters.payloadSize chunk + chunk.count + 28
  /-- It has no more tokens than the payload and the envelope have. -/
  tokens_le : tokens chunk.compact ≤ standard.payloadSize chunk + (chunk.count + 28) ⌈/⌉ 4
  /-- It has no fewer than the payload of a few entities. -/
  le_tokens : chunk.count ≤ 15 → standard.payloadSize chunk ≤ tokens chunk.compact

/-- The text of a chunk of one kind of entities measures up to its payload. -/
theorem Measured.of_one_kind {chunk : Analysis} (some : chunk.isEmpty = false)
    (kind : chunk.functions = [] ∨ chunk.classes = []) : Measured chunk := by
  have envelope := length_compact_eq some kind
  have payload := payloadSize_standard_bounds chunk
  refine ⟨envelope, ?_, fun few => ?_⟩
  · rw [Nat.ceilDiv_eq_add_pred_div, tokens, envelope]
    omega
  · rw [tokens, envelope]
    omega

/-- The text of a chunk without entities is all envelope. -/
theorem length_compact_empty : Analysis.empty.compact.length = 29 := by
  rw [length_compact]
  simp only [Analysis.empty, List.map_nil, length_write_none]

/-- The text of a chunk without reduced records keeps to the budget but for the envelope. -/
theorem tokens_compact_le (budget : Budget) (analysis : Analysis) :
    ∀ origin ∈ standard.origins budget analysis, (standard.reduced budget origin).isEmpty = true →
      tokens (standard.records budget origin).compact ≤
        budget.units + ((standard.records budget origin).count + 28) ⌈/⌉ 4 := by
  intro origin member unreduced
  have fits := standard.payloadSize_fitting_le budget analysis origin member
  have payload := (Within.of_fitting_le standard budget fits).unreduced_le unreduced
  by_cases found : origin.isEmpty = true
  · have positive := budget.positive
    obtain rfl := Analysis.isEmpty_iff.mp found
    change tokens Analysis.empty.compact ≤ _ + 28 ⌈/⌉ 4
    rw [tokens, length_compact_empty, Nat.ceilDiv_eq_add_pred_div]
    omega
  · have some : (standard.records budget origin).isEmpty = false := by
      rw [records_isEmpty]
      exact Bool.eq_false_iff.mpr found
    have kind : (standard.records budget origin).functions = [] ∨
        (standard.records budget origin).classes = [] := by
      rw [records_functions_eq_nil_iff, records_classes_eq_nil_iff]
      exact standard.origins_one_kind budget analysis origin member
    calc
      tokens (standard.records budget origin).compact
        ≤ standard.payloadSize (standard.records budget origin) +
            ((standard.records budget origin).count + 28) ⌈/⌉ 4 :=
          (Measured.of_one_kind some kind).tokens_le
      _ ≤ budget.units + ((standard.records budget origin).count + 28) ⌈/⌉ 4 :=
          Nat.add_le_add_right payload _

/-- The text of a chunk of one kind of entities has an envelope of known length; in tokens it
exceeds the payload by no more than the envelope, and falls short of it only where there are many
entities. So the texts of chunks without reduced records keep to the budget but for the
envelope. -/
theorem text_near_payload :
    (∀ chunk : Analysis, chunk.isEmpty = false → chunk.functions = [] ∨ chunk.classes = [] →
      Measured chunk) ∧
    ∀ (budget : Budget) (analysis : Analysis), ∃ origins : List Analysis,
      origins.flatMap (·.functions) = analysis.functions ∧
      origins.flatMap (·.classes) = analysis.classes ∧
      standard.Yields budget analysis (origins.map (standard.records budget)) ∧
      ∀ origin ∈ origins, (standard.reduced budget origin).isEmpty = true →
        tokens (standard.records budget origin).compact ≤
          budget.units + ((standard.records budget origin).count + 28) ⌈/⌉ 4 := by
  refine ⟨fun chunk some kind => .of_one_kind some kind, fun budget analysis =>
    ⟨standard.origins budget analysis, standard.origins_functions budget analysis,
      standard.origins_classes budget analysis, ?_, ?_⟩⟩
  · rw [← chunkWithin_eq_records]
    exact standard.yields_chunkWithin budget analysis
  · exact tokens_compact_le budget analysis

/-- Nothing is reduced where all entities are found to fit by themselves. -/
theorem reduced_isEmpty (chunker : Chunker) (budget : Budget) {analysis : Analysis}
    (functions : ∀ function ∈ analysis.functions, chunker.functionSize function ≤ budget.units)
    (classes : ∀ cls ∈ analysis.classes, chunker.classSize cls ≤ budget.units) :
    (chunker.reduced budget analysis).isEmpty = true := by
  have noFunctions :
      analysis.functions.filter (budget.units < chunker.functionSize ·) = [] :=
    List.filter_eq_nil_iff.mpr fun function member heavy =>
      Nat.not_lt.mpr (functions function member) (of_decide_eq_true heavy)
  have noClasses : analysis.classes.filter (budget.units < chunker.classSize ·) = [] :=
    List.filter_eq_nil_iff.mpr fun cls member heavy =>
      Nat.not_lt.mpr (classes cls member) (of_decide_eq_true heavy)
  rw [reduced, noFunctions, noClasses]
  rfl

/-- The one chunk of two small functions has 268 characters, its functions 119 each. -/
theorem text_near_payload_bareMethod :
    (⟨[bareMethod "f", bareMethod "g"], []⟩ : Analysis).isEmpty = false ∧
    Measured ⟨[bareMethod "f", bareMethod "g"], []⟩ ∧
    ∃ origins : List Analysis,
      origins.flatMap (·.functions) = [bareMethod "f", bareMethod "g"] ∧
      standard.Yields .standard ⟨[bareMethod "f", bareMethod "g"], []⟩
        (origins.map (standard.records .standard)) ∧
      ∀ origin ∈ origins, (standard.reduced .standard origin).isEmpty = true ∧
        tokens (standard.records .standard origin).compact ≤
          32000 + ((standard.records .standard origin).count + 28) ⌈/⌉ 4 := by
  obtain ⟨measured, near⟩ := text_near_payload
  obtain ⟨origins, functions, classes, yields, bound⟩ :=
    near .standard ⟨[bareMethod "f", bareMethod "g"], []⟩
  refine ⟨rfl, measured _ rfl (.inr rfl), origins, functions, yields, fun origin member => ?_⟩
  obtain ⟨f, g⟩ : characters.functionSize (bareMethod "f") = 119 ∧
      characters.functionSize (bareMethod "g") = 119 := by
    simp only [functionSize, characters, sizeOf_length]
    decide +kernel
  have light : ∀ function ∈ [bareMethod "f", bareMethod "g"],
      standard.functionSize function ≤ 32000 := by
    simp only [List.forall_mem_cons, functionSize_standard, f, g]
    exact ⟨by decide, by decide, List.forall_mem_nil _⟩
  have unreduced : (standard.reduced .standard origin).isEmpty = true := by
    refine standard.reduced_isEmpty .standard (fun function inside => ?_) fun cls inside => ?_
    · have found : function ∈ origins.flatMap (·.functions) :=
        List.mem_flatMap_of_mem member inside
      rw [functions] at found
      exact light function found
    · have found : cls ∈ origins.flatMap (·.classes) := List.mem_flatMap_of_mem member inside
      rw [classes] at found
      exact absurd found List.not_mem_nil
  exact ⟨unreduced, bound origin member unreduced⟩

end Chunker

end CodeAtlas
