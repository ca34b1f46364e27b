import CodeAtlas.Proofs.Chunk.Envelope

/-!
# Functions without their bodies

A function that does not fit a budget by itself gets a placeholder for its body. Its text is the
text of what it is without a body, and the field of the body (`functionSize_eq`); so the record is
smaller if the body is longer than the placeholder, as it is written, and larger if it is shorter
or missing, whatever else made the function too large: `truncated_size`.
-/
namespace CodeAtlas

namespace Json

/-- The characters that stand for a text between its quotes. -/
def escaped (text : String) : List Char := text.toList.flatMap (writeChar false)

/-- A string has two quotes around its characters. -/
theorem length_writeString (text : String) :
    (writeString false text).length = (escaped text).length + 2 := by
  simp [writeString, escaped]

/-- Further fields are written one after the other. -/
theorem writeFields_append (layout : Layout) (level : Nat) (front back : List (String × Json)) :
    writeFields layout level (front ++ back) =
      writeFields layout level front ++ writeFields layout level back := by
  induction front with
  | nil => rw [writeFields, List.nil_append, List.nil_append]
  | cons field front ih =>
    obtain ⟨name, value⟩ := field
    rw [List.cons_append, writeFields, writeFields, ih]
    simp only [List.append_assoc]

end Json

namespace Chunker

open Chunk

/-- How many characters the field of a body takes in the text of a function. -/
def bodyLength : Option String → Nat
  | none => 0
  | some body => (Json.escaped body).length + 10

/-- The field of a body is a name, a comma, a colon and a string. -/
theorem length_writeFields_body (level : Nat) (body : Option String) :
    (Json.writeFields .compact level (Json.optionalField "body" body)).length =
      bodyLength body := by
  have named : (Json.writeString false "body").length = 6 := by decide +kernel
  have comma : Json.Layout.compact.comma.toList.length = 1 := rfl
  have colon : Json.Layout.compact.colon.toList.length = 1 := rfl
  have plain : Json.Layout.compact.ascii = false := rfl
  cases body with
  | none => rw [Json.optionalField, Json.writeFields, bodyLength, List.length_nil]
  | some body =>
    rw [Json.optionalField, Json.writeFields, Json.writeFields, Json.write_string,
      Json.lineBreak_compact, plain]
    simp only [List.length_append, List.length_nil, Wording.ofString_string, named, comma, colon,
      Json.length_writeString, bodyLength]
    omega

/-- A body adds its field to the text of a function. -/
theorem functionSize_eq (function : Function) :
    characters.functionSize function =
      characters.functionSize { function with body := none } + bodyLength function.body := by
  have bare : bodyLength none = 0 := rfl
  simp only [functionSize, characters, sizeOf_length, Function.toJson, List.cons_append,
    List.nil_append, Json.write_object_cons, Json.writeFields, Json.writeFields_append,
    List.length_append, List.length_cons, length_writeFields_body, bare]
  omega

/-- The placeholder has thirty-one characters, none of them escaped. -/
theorem length_escaped_truncatedBody : (Json.escaped truncatedBody).length = 31 := by
  decide +kernel

/-- The text of a function and that of its record differ by the bodies. -/
theorem functionSize_truncate (function : Function) :
    characters.functionSize (truncate function) + bodyLength function.body =
      characters.functionSize function + 41 := by
  have whole := functionSize_eq function
  have record := functionSize_eq (truncate function)
  have placeholder : bodyLength (truncate function).body = 41 := by
    rw [truncate, bodyLength, length_escaped_truncatedBody]
  have bare : { truncate function with body := none } = { function with body := none } := rfl
  rw [bare, placeholder] at record
  omega

/-- How the record of a function that has lost its body measures up to the function. -/
structure Truncated (function record : Function) : Prop where
  /-- The record is the function but for its body. -/
  record_eq : record = { function with body := some "/* Body too large, truncated */" }
  /-- It is no larger exactly if there was a body and what the placeholder is longer than that, as
  it was written, fits the last token of the function. -/
  size_le_iff : standard.functionSize record ≤ standard.functionSize function ↔
    ∃ body, function.body = some body ∧
      characters.functionSize function + 31 ≤
        (Json.escaped body).length + 4 * standard.functionSize function
  /-- So it is no larger if the body was as long as the placeholder. -/
  size_le : ∀ body, function.body = some body → 31 ≤ (Json.escaped body).length →
    standard.functionSize record ≤ standard.functionSize function
  /-- With a shorter body it grows by no more than what the placeholder is longer. -/
  growth_le : ∀ body, function.body = some body →
    standard.functionSize record ≤
      standard.functionSize function + (31 - (Json.escaped body).length) ⌈/⌉ 4
  /-- Without a body it grows by ten or eleven tokens. -/
  growth_of_bodiless : function.body = none →
    standard.functionSize function + 10 ≤ standard.functionSize record ∧
      standard.functionSize record ≤ standard.functionSize function + 11

/-- A function that loses its body measures up to its record. -/
theorem truncated_truncate (function : Function) : Truncated function (truncate function) := by
  have exchange := functionSize_truncate function
  have whole := functionSize_standard function
  have record := functionSize_standard (truncate function)
  have written body (there : function.body = some body) :
      bodyLength function.body = (Json.escaped body).length + 10 := by
    rw [there, bodyLength]
  have bare (missing : function.body = none) : bodyLength function.body = 0 := by
    rw [missing, bodyLength]
  refine ⟨rfl, ⟨fun small => ?_, ?_⟩, fun body there long => ?_, fun body there => ?_,
    fun missing => ?_⟩
  · cases there : function.body with
    | none =>
      have nothing := bare there
      omega
    | some body =>
      have field := written body there
      exact ⟨body, rfl, by omega⟩
  · rintro ⟨body, there, room⟩
    have field := written body there
    omega
  · have field := written body there
    omega
  · have field := written body there
    rw [Nat.ceilDiv_eq_add_pred_div]
    omega
  · have nothing := bare missing
    omega

/-- A function that does not fit a budget by itself comes out, in its place, as a record that is no
larger exactly if the placeholder of its body is not too long for that. -/
theorem truncated_size (budget : Budget) (analysis : Analysis) {before after : List Function}
    {function : Function} (placed : analysis.functions = before ++ function :: after)
    (large : budget.units < standard.functionSize function) :
    ∃ chunks record, standard.Yields budget analysis chunks ∧
      chunks.flatMap (·.functions) =
        before.map (standard.functionRecord budget) ++
          record :: after.map (standard.functionRecord budget) ∧
      Truncated function record := by
  have lost : standard.functionRecord budget function = truncate function := if_pos large
  refine ⟨_, truncate function, standard.yields_chunkWithin budget analysis, ?_,
    truncated_truncate function⟩
  rw [chunkWithin_eq_records, flatMap_records_functions, placed, List.map_append, List.map_cons,
    lost]

/-- A function whose documentation is empty and whose body is all that varies. -/
def withBody (body : Option String) : Function := { bareMethod "f" with body }

/-- The sizes of functions that differ in their bodies. -/
theorem functionSize_withBody (body : Option String) :
    standard.functionSize (withBody body) = (119 + bodyLength body + 3) / 4 := by
  have bare : characters.functionSize (bareMethod "f") = 119 := by
    simp only [functionSize, characters, sizeOf_length]
    decide +kernel
  have whole := functionSize_eq (withBody body)
  have size := functionSize_standard (withBody body)
  have same : { withBody body with body := none } = bareMethod "f" := rfl
  rw [same, bare] at whole
  rw [size, whole, withBody]

/-- A body of twenty-seven characters, six of which are escaped. -/
def quotingBody : String := "\x7b return [\"a\", \"b\", \"c\"]; \x7d"

/-- The record of a function with a quoting body is no larger, although the body is shorter than the
placeholder before it is written. -/
theorem truncated_size_quotingBody :
    quotingBody.length = 27 ∧ 1 < standard.functionSize (withBody (some quotingBody)) ∧
    ∃ chunks record,
      standard.Yields ⟨1, by decide⟩ ⟨[withBody none, withBody (some quotingBody)], []⟩ chunks ∧
      chunks.flatMap (·.functions) =
        [standard.functionRecord ⟨1, by decide⟩ (withBody none), record] ∧
      Truncated (withBody (some quotingBody)) record ∧
      standard.functionSize record ≤ standard.functionSize (withBody (some quotingBody)) := by
  have written : (Json.escaped quotingBody).length = 33 := by decide +kernel
  have large : 1 < standard.functionSize (withBody (some quotingBody)) := by
    rw [functionSize_withBody, bodyLength, written]
    decide
  have placed : (⟨[withBody none, withBody (some quotingBody)], []⟩ : Analysis).functions =
      [withBody none] ++ withBody (some quotingBody) :: [] :=
    rfl
  obtain ⟨chunks, record, yields, records, truncated⟩ :=
    truncated_size ⟨1, by decide⟩ _ placed large
  refine ⟨by decide +kernel, large, chunks, record, yields, records, truncated, ?_⟩
  exact truncated.size_le quotingBody rfl (by rw [written]; decide)

/-- A function that does not fit a budget, and is alone in its analysis, is one chunk. -/
theorem yields_truncate (budget : Budget) {function : Function}
    (large : budget.units < standard.functionSize function) :
    standard.Yields budget ⟨[function], []⟩ [⟨[truncate function], []⟩] := by
  have chunks : standard.chunkWithin budget ⟨[function], []⟩ = [⟨[truncate function], []⟩] := by
    simp [chunkWithin, Packing.pack, Packing.packFrom, Packing.close, functionPacking, large]
  rw [← chunks]
  exact standard.yields_chunkWithin budget ⟨[function], []⟩

/-- A function that does not fit a budget comes out, alone in its analysis, as a larger record. -/
def ComesOutLarger (budget : Budget) (function record : Function) : Prop :=
  budget.units < standard.functionSize function ∧
    standard.Yields budget ⟨[function], []⟩ [⟨[record], []⟩] ∧
    standard.functionSize function < standard.functionSize record

/-- With a body that is written with few characters a function comes out as a larger record. -/
theorem comesOutLarger_withBody {budget : Budget} (small : budget.units < 30)
    {body : Option String} (short : bodyLength body ≤ 37) :
    ComesOutLarger budget (withBody body) (withBody (some truncatedBody)) := by
  have whole := functionSize_withBody body
  have record := functionSize_withBody (some truncatedBody)
  have placeholder : bodyLength (some truncatedBody) = 41 := by
    rw [bodyLength, length_escaped_truncatedBody]
  have large : budget.units < standard.functionSize (withBody body) := by omega
  exact ⟨large, yields_truncate budget large, by omega⟩

/-- A function without a body, and one with an empty block, come out as larger records. -/
theorem truncated_larger :
    ComesOutLarger ⟨1, by decide⟩ (withBody none)
      (withBody (some "/* Body too large, truncated */")) ∧
    ComesOutLarger ⟨1, by decide⟩ (withBody (some "\x7b\x7d"))
      (withBody (some "/* Body too large, truncated */")) := by
  constructor
  · exact comesOutLarger_withBody (by decide) (by decide +kernel)
  · exact comesOutLarger_withBody (by decide) (by decide +kernel)

end Chunker

end CodeAtlas
