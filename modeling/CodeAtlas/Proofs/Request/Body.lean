import CodeAtlas.Proofs.Request.Context
import CodeAtlas.Proofs.Text.Blank
import CodeAtlas.Proofs.Text.Removal

/-!
# Compacted bodies

Compacted code is neat: white space stands only as single blanks between other characters. What is
left of the other characters is a part of them, in order. The text that is sent for a body is short:
`bodies_compacted`.
-/
namespace CodeAtlas.Request

open Text

/-! ## Squeezing -/

/-- Squeezing keeps the characters that are no white space. -/
theorem solid_squeezeFrom (inside : Bool) (chars : List Char) :
    solid (squeezeFrom inside chars) = solid chars := by
  unfold solid
  induction chars generalizing inside with
  | nil => rfl
  | cons char rest ih =>
    have blank : isSpace ' ' = true := rfl
    unfold squeezeFrom
    cases space : isSpace char <;> cases inside <;> simp [space, blank, ih]

/-- White space is squeezed to blanks. -/
theorem eq_blank_of_mem_squeezeFrom (inside : Bool) (chars : List Char) :
    ∀ char ∈ squeezeFrom inside chars, isSpace char = true → char = ' ' := by
  induction chars generalizing inside with
  | nil => exact List.forall_mem_nil _
  | cons first rest ih =>
    unfold squeezeFrom
    split_ifs with space already
    · exact ih true
    · exact List.forall_mem_cons.mpr ⟨fun _ => rfl, ih true⟩
    · exact List.forall_mem_cons.mpr ⟨fun other => absurd other space, ih false⟩

/-- After white space nothing that is squeezed begins with it. -/
theorem head?_squeezeFrom (chars : List Char) :
    ∀ char ∈ (squeezeFrom true chars).head?, isSpace char = false := by
  induction chars with
  | nil =>
    intro char member
    cases member
  | cons first rest ih =>
    unfold squeezeFrom
    cases space : isSpace first with
    | true => simpa using ih
    | false => simpa using space

/-- Runs of white space are squeezed to single blanks. -/
theorem isChain_squeezeFrom (inside : Bool) (chars : List Char) :
    (squeezeFrom inside chars).IsChain Apart := by
  induction chars generalizing inside with
  | nil => exact .nil
  | cons first rest ih =>
    unfold squeezeFrom
    split_ifs with space already
    · exact ih true
    · refine List.isChain_cons.mpr ⟨fun next member => ?_, ih true⟩
      exact .inr (head?_squeezeFrom rest next member)
    · refine List.isChain_cons.mpr ⟨fun next member => ?_, ih false⟩
      exact .inl (Bool.eq_false_iff.mpr space)

/-! ## Compacting -/

/-- Compacted code is neat. -/
theorem neat_compact (code : String) : Neat (compact code).toList := by
  rw [compact, String.toList_ofList]
  exact neat_trim (eq_blank_of_mem_squeezeFrom false _) (isChain_squeezeFrom false _)

/-- The solid characters of compacted code are a part of those of the code, in order. -/
theorem solid_compact_sublist (code : String) :
    (solid (compact code).toList).Sublist (solid code.toList) := by
  rw [compact, String.toList_ofList]
  generalize left : remove consoleCall (remove lineComment (remove blockComment code.toList)) = rest
  have part : rest.Sublist code.toList := by
    rw [← left]
    exact (remove_sublist _ _).trans ((remove_sublist _ _).trans (remove_sublist _ _))
  have trimmed := (trim_within (squeeze rest)).sublist.filter fun char => !isSpace char
  have squeezed : solid (squeeze rest) = solid rest := solid_squeezeFrom false rest
  calc
    (solid (trim (squeeze rest))).Sublist (solid (squeeze rest)) := trimmed
    _ = solid rest := squeezed
    (solid rest).Sublist (solid code.toList) := part.filter _

/-! ## What is sent for a body -/

/-- A text stands for a body, which may be missing: it is short, and it is the compacted body or the
head and the tail of that. -/
structure StandsFor (text : String) (body : Option String) : Prop where
  /-- It has 500 characters at most. -/
  short : text.length ≤ 500
  /-- What stands for a body that was too large stands for itself. -/
  placeholder : body = some Chunk.truncatedBody → text = Chunk.truncatedBody
  /-- Every other body is compacted. -/
  whole : body ≠ some Chunk.truncatedBody → (compact (body.getD "")).length ≤ 500 →
    text = compact (body.getD "")
  /-- If it is still long, its first 300 and its last 100 characters stay. -/
  ends : body ≠ some Chunk.truncatedBody → 500 < (compact (body.getD "")).length →
    ∃ head middle tail, (compact (body.getD "")).toList = head ++ middle ++ tail ∧
      head.length = 300 ∧ tail.length = 100 ∧ text.toList = head ++ omission.toList ++ tail

/-- The head and the tail of a long text are 430 characters with what stands between them. -/
theorem exists_ends_of_shorten {text : String} (long : 500 < text.length) :
    (shorten text).length = 430 ∧
      ∃ head middle tail, text.toList = head ++ middle ++ tail ∧
        head.length = 300 ∧ tail.length = 100 ∧
        (shorten text).toList = head ++ omission.toList ++ tail := by
  have count : text.toList.length = text.length := String.length_toList
  have head : (text.toList.take 300).length = 300 := by
    rw [List.length_take]
    omega
  have tail : (text.toList.drop (text.toList.length - 100)).length = 100 := by
    rw [List.length_drop]
    omega
  have parts : (shorten text).toList =
      text.toList.take 300 ++ omission.toList ++ text.toList.drop (text.toList.length - 100) := by
    simp [shorten]
  refine ⟨?_, _, (text.toList.drop 300).take (text.toList.length - 400), _, ?_, head, tail, parts⟩
  · have between : omission.toList.length = 30 := by decide
    rw [← String.length_toList, parts, List.length_append, List.length_append, head, between, tail]
  · have place : 300 + (text.toList.length - 400) = text.toList.length - 100 := by omega
    rw [← place, ← List.drop_drop, List.append_assoc, List.take_append_drop,
      List.take_append_drop]

/-- The text that is sent for a body stands for it. -/
theorem essential_standsFor (body : Option String) : StandsFor (essential (body.getD "")) body := by
  by_cases placeholder : body = some Chunk.truncatedBody
  · have same : essential (body.getD "") = Chunk.truncatedBody := by
      rw [placeholder]
      exact essential_truncatedBody
    refine ⟨?_, fun _ => same, fun other => absurd placeholder other,
      fun other => absurd placeholder other⟩
    rw [same]
    decide
  · have other : body.getD "" ≠ Chunk.truncatedBody := by
      cases body with
      | none => decide
      | some text => simpa using placeholder
    by_cases long : 500 < (compact (body.getD "")).length
    · have cut : essential (body.getD "") = shorten (compact (body.getD "")) := by
        rw [essential, if_neg other]
        exact if_pos long
      obtain ⟨length, ends⟩ := exists_ends_of_shorten long
      rw [cut]
      exact ⟨by omega, fun same => absurd same placeholder, fun _ short => by omega,
        fun _ _ => ends⟩
    · have whole : essential (body.getD "") = compact (body.getD "") := by
        rw [essential, if_neg other]
        exact if_neg long
      rw [whole]
      exact ⟨by omega, fun same => absurd same placeholder, fun _ _ => rfl,
        fun _ other => absurd other long⟩

/-- Compacted code is neat, and its solid characters are a part of those of the code, in order. What
is sent for a body, also for a missing one, stands for it. -/
theorem bodies_compacted :
    (∀ code, Neat (compact code).toList ∧
      (solid (compact code).toList).Sublist (solid code.toList)) ∧
    ∀ body : Option String,
      sentBody (body.elim .null .string) = .ok (.string (essential (body.getD ""))) ∧
        StandsFor (essential (body.getD "")) body := by
  refine ⟨fun code => ⟨neat_compact code, solid_compact_sublist code⟩,
    fun body => ⟨?_, essential_standsFor body⟩⟩
  cases body with
  | none => rw [Option.getD_none, essential_empty]; rfl
  | some text => rfl

/-- A comment and a call that are not closed stay. -/
example : compact "a\t/* b\n console.log(c " = "a /* b console.log(c" := by decide +kernel

end CodeAtlas.Request
