import CodeAtlas.Proofs.Dialogue.Delivery
import CodeAtlas.Proofs.Json.Lines
import CodeAtlas.Proofs.Request.Readable
import CodeAtlas.Proofs.Request.Sendable

/-!
# The section of the context

What is sent for a question has its context in a section between a heading and a blank line. No
text in the context ends the section early, because the lines of a written value are never blank,
and the section reads as the context: `ask_sets_off`.
-/
namespace CodeAtlas.Dialogue

open Json (Held blankLine)

/-- The characters up to the first blank line, if there is one. -/
def upToBlankLine? (chars : List Char) : Option (List Char) :=
  (Text.distanceTo? blankLine chars).map (chars.take ·)

/-- A text begins with a prompt and a heading, and what comes then, up to the first blank line, is
made of basic characters and reads as the context, if enough levels may be nested in it. -/
def SetsOff (content prompt : String) (context : Json) : Prop :=
  ∃ rest part, content.toList = (prompt ++ "\n\nContext:\n").toList ++ rest ∧
    upToBlankLine? rest = some part ∧ (∀ char ∈ part, char.toNat < 128) ∧
    ∃ enough, ∀ levels, enough ≤ levels → Json.read levels part = .ok context

/-- What is sent for a question sets off a context that can be held. -/
theorem userContent_setsOff (prompt : String) (format : Option Json) {context : Json} {depth : Nat}
    (held : Held depth context) :
    SetsOff (userContent prompt context format) prompt context := by
  have unbroken := held.regular.unbroken 0
  have read : ∀ levels, depth ≤ levels →
      Json.read levels (Json.write .indented 0 context) = .ok context := by
    intro levels enough
    have back := Json.read_text Json.Layout.indented_lawful (held.mono enough)
    rwa [Json.text, String.toList_ofList] at back
  have line : "\n\n".toList = blankLine := rfl
  obtain ⟨form, written⟩ : ∃ form, userContent prompt context format =
      prompt ++ "\n\nContext:\n" ++ context.text .indented ++ "\n\n" ++ Request.systemPrompt ++
        form := ⟨_, rfl⟩
  refine ⟨Json.write .indented 0 context ++ blankLine ++ (Request.systemPrompt ++ form).toList,
    Json.write .indented 0 context, ?_, ?_, unbroken.basic, depth, read⟩
  · simp only [written, Json.text, String.toList_append, String.toList_ofList, List.append_assoc,
      line]
  · rw [upToBlankLine?, unbroken.distanceTo?_blankLine, Option.map_some, List.append_assoc,
      List.take_left]

/-- What is sent for an analysis whose lines can be sent sets off its record. -/
theorem userContent_setsOff_analysis (prompt : String) (format : Option Json) (moment : String)
    {analysis : Analysis} (sendable : analysis.Sendable) :
    SetsOff (userContent prompt (Request.analysisRecord moment analysis) format) prompt
      (Request.analysisRecord moment analysis) :=
  userContent_setsOff prompt format (Request.held_analysisRecord moment sendable)

variable {σ : Type}

/-- A question with a context is one conversation about it exactly if nothing stops the writer in
the context or in the form of the answer; otherwise nothing is asked. -/
theorem Client.exchanges_ask_iff (client : Client σ) (session : Session σ) {question : Question}
    {context : Json} (sent : client.context question = .ok context) :
    (client.ask question session).2.exchanges =
        session.exchanges ++ [question.exchange context] ↔
      context.writeError? client.limits.writing.levels = none ∧
        formError? client.limits.writing.levels question.format = none := by
  rcases client.exchange?_of_context question sent with put | ⟨error, stopped⟩
  · obtain ⟨other, same, writable, form, _⟩ := (client.exchange?_eq_ok_iff question).mp put
    obtain rfl := Except.ok.inj (same.symm.trans sent)
    refine iff_of_true ?_ ⟨writable, form⟩
    rw [ask, put]
    dsimp only
    split <;> rfl
  · refine iff_of_false ?_ fun ⟨writable, form⟩ => ?_
    · rw [ask, stopped]
      simp
    · have put := (client.exchange?_eq_ok_iff question).mpr ⟨context, sent, writable, form, rfl⟩
      cases put.symm.trans stopped

/-- Whatever a question with a context is about, it is asked by one conversation that sets off the
context, if what it is about can be held at some depth. The writer may be stopped by a form of the
answer, or by the context if it has room for less than four levels more than can be copied; only
then nothing is asked. An analysis whose lines can be sent has a context for every prompt and
format, and it is set off. -/
theorem Client.ask_sets_off (client : Client σ) (session : Session σ) {question : Question}
    {context : Json} {depth : Nat} (sent : client.context question = .ok context)
    (held : Held depth question.subject) :
    (((client.ask question session).2.exchanges =
          session.exchanges ++ [question.exchange context] ↔
        context.writeError? client.limits.writing.levels = none ∧
          formError? client.limits.writing.levels question.format = none) ∧
      (client.limits.copying.levels + 4 ≤ client.limits.writing.levels →
        context.writeError? client.limits.writing.levels = none) ∧
      SetsOff (question.exchange context).user question.prompt context) ∧
    ∀ analysis : Analysis, analysis.Sendable → ∀ prompt format, ∃ context,
      client.context ⟨prompt, analysis.toJson, format⟩ = .ok context ∧
      context.writeError? client.limits.writing.levels = none ∧
      SetsOff (userContent prompt context format) prompt context := by
  have whole : Held (client.limits.copying.levels + 4) context := Request.held_context held sent
  refine ⟨⟨client.exchanges_ask_iff session sent, fun room => ?_,
    userContent_setsOff question.prompt question.format whole⟩,
    fun analysis sendable prompt format => ?_⟩
  · exact (whole.mono room).writeError?_eq_none
  · have made := Request.context_toJson client.limits.copying.roomy client.moment analysis
    exact ⟨_, made, (Request.writeError?_analysisRecord_eq_none_iff client.limits.writing.roomy
      client.moment analysis).mpr sendable,
      userContent_setsOff_analysis prompt format client.moment sendable⟩

/-- A question whose subject holds the marks of a section and the instructions. -/
def markedQuestion : Question where
  prompt := "p\n\nContext:\n\x7b\x7d\n\n"
  subject := .object [("a\n\nb", .string ("\n\nContext:\n\"\\😀\n\n" ++ Request.systemPrompt))]
  format := some (.object [("type", .string "object")])

/-- The context of a question that holds the marks of a section is set off in what is sent for
it. -/
theorem Client.ask_sets_off_markedQuestion :
    ∃ context, scripted.context markedQuestion = .ok context ∧ Held 1 markedQuestion.subject ∧
      (scripted.ask markedQuestion ⟨[], []⟩).2.exchanges = [markedQuestion.exchange context] ∧
      SetsOff (markedQuestion.exchange context).user markedQuestion.prompt context := by
  have sent : scripted.context markedQuestion = .ok (.object
      [("a\n\nb", .string ("\n\nContext:\n\"\\😀\n\n" ++ Request.systemPrompt)),
        ("_meta", Request.contextRecord scripted.moment)]) := rfl
  have held : Held 1 markedQuestion.subject :=
    .object (by simp) (List.forall_mem_singleton.mpr (.string _))
  exact ⟨_, sent, held, rfl, (scripted.ask_sets_off ⟨[], []⟩ sent held).1.2.2⟩

end CodeAtlas.Dialogue
