import CodeAtlas.Dialogue.Question
import CodeAtlas.Proofs.Json.Same
import CodeAtlas.Proofs.Reply.Contract

/-!
# What an answer delivers

A question without a form of its own should be answered by what the contract vouches for: a list of
components or an analysis. The checks read the components where there are any, but the answer is the
analysis where there is one. So an analysis beside a list of components is delivered as it is, and
nothing else is delivered without having been checked: `ask_validated_unless_overlooked`.
-/
namespace CodeAtlas

namespace Reply

/-- What the contract vouches for. -/
def Validated (value : Json) : Prop :=
  (∃ items, value = .array items ∧ ∀ item ∈ items, ItemKind.component.Fits item) ∨
    AnalysisFits value

/-- A value is the analysis of a reply that was accepted for its components. -/
def Overlooked (reply value : Json) : Prop :=
  (∃ items, reply.get? "components" = some (.array items) ∧
    ∀ item ∈ items, ItemKind.component.Fits item) ∧
  reply.get? "analysis" = some value ∧ value.isTruthy = true

/-- An analysis with items counts as true. -/
theorem AnalysisFits.isTruthy {value : Json} (fits : AnalysisFits value) :
    value.isTruthy = true := by
  obtain ⟨fields, rfl⟩ := fits.object
  obtain ⟨part, first, rest, found⟩ := fits.occupied
  cases fields with
  | nil => contradiction
  | cons field fields => rfl

variable {levels : Nat} {format : Option Json}

/-- What is selected from an accepted reply is validated, or is an overlooked analysis. -/
theorem select_of_accepted {reply : Json} (plain : asksForm format = false)
    (accepted : rejection? format reply = none) :
    Validated (select format reply) ∨ Overlooked reply (select format reply) := by
  rcases (rejection?_eq_none_iff plain).mp accepted with
    ⟨items, components, fit⟩ | ⟨_, analysis, found, fits⟩
  · cases found : reply.get? "analysis" with
    | none =>
      exact .inl (.inl ⟨items, by simp [select, plain, found, components, Json.isTruthy], fit⟩)
    | some analysis =>
      by_cases truthy : analysis.isTruthy = true
      · have selected : select format reply = analysis := by simp [select, plain, found, truthy]
        rw [selected]
        exact .inr ⟨⟨items, components, fit⟩, found, truthy⟩
      · exact .inl (.inl ⟨items, by simp [select, plain, found, components, truthy], fit⟩)
  · have selected : select format reply = analysis := by
      simp [select, plain, found, fits.isTruthy]
    rw [selected]
    exact .inl (.inr fits)

/-- A text is answered by what is selected from its object, if that is accepted. -/
theorem answer_eq_ok_iff {text : String} {value : Json} :
    answer levels format (.string text) = .ok value ↔
      ∃ reply, object levels text = .ok reply ∧ rejection? format reply = none ∧
        select format reply = value := by
  unfold answer check
  cases read : object levels text with
  | error fault => simp [read, bind, Except.bind]
  | ok reply =>
    cases rejected : rejection? format reply <;>
      simp [read, rejected, bind, Except.bind, pure, Except.pure]

/-- Only texts are answered. -/
theorem exists_text_of_answer {reply value : Json} (answered : answer levels format reply = .ok value) :
    ∃ text, reply = .string text := by
  cases reply with
  | string text => exact ⟨text, rfl⟩
  | _ => contradiction

/-- An overlooked analysis is the answer. -/
theorem Overlooked.answer {text : String} {reply value : Json} (plain : asksForm format = false)
    (read : object levels text = .ok reply) (overlooked : Overlooked reply value) :
    Reply.answer levels format (.string text) = .ok value := by
  obtain ⟨components, found, truthy⟩ := overlooked
  have accepted : rejection? format reply = none :=
    (rejection?_eq_none_iff plain).mpr (.inl components)
  have selected : select format reply = value := by simp [select, plain, found, truthy]
  exact answer_eq_ok_iff.mpr ⟨reply, read, accepted, selected⟩

end Reply

namespace Dialogue.Client

variable {σ : Type} (client : Client σ) (question : Question) (session : Session σ)

/-- A question gets a reply from which an object can be read. -/
def Replies (reply : Json) : Prop :=
  ∃ exchange text, client.exchange? question = .ok exchange ∧
    (client.backend.complete exchange session.state).1 = .ok (.string text) ∧
    Reply.object client.limits.reading.levels text = .ok reply

/-- A question can be put exactly if it has a context and nothing stops the writer. -/
theorem exchange?_eq_ok_iff {exchange : Exchange} :
    client.exchange? question = .ok exchange ↔
      ∃ context, client.context question = .ok context ∧
        context.writeError? client.limits.writing.levels = none ∧
        formError? client.limits.writing.levels question.format = none ∧
        question.exchange context = exchange := by
  unfold exchange?
  cases client.context question with
  | error fault => simp
  | ok context =>
    cases stopped : context.writeError? client.limits.writing.levels with
    | some error => simp [stopped]
    | none =>
      cases form : formError? client.limits.writing.levels question.format <;> simp [stopped, form]

/-- A question that has a context is put, unless the writer is stopped. -/
theorem exchange?_of_context {context : Json} (sent : client.context question = .ok context) :
    client.exchange? question = .ok (question.exchange context) ∨
      ∃ error, client.exchange? question = .error (.unwritten error) := by
  unfold exchange?
  rw [sent]
  dsimp only
  cases (context.writeError? client.limits.writing.levels).or
    (formError? client.limits.writing.levels question.format) with
  | none => exact .inl rfl
  | some error => exact .inr ⟨error, rfl⟩

/-- Naming errors differently gives the same values. -/
theorem mapError_eq_ok_iff {α β γ : Type} {name : α → β} {outcome : Except α γ} {value : γ} :
    outcome.mapError name = .ok value ↔ outcome = .ok value := by
  cases outcome with
  | ok other => constructor <;> (rintro ⟨⟩; rfl)
  | error error => constructor <;> rintro ⟨⟩

/-- A question is answered exactly if its reply is. -/
theorem ask_eq_ok_iff {value : Json} :
    (client.ask question session).1 = .ok value ↔
      ∃ exchange reply, client.exchange? question = .ok exchange ∧
        (client.backend.complete exchange session.state).1 = .ok reply ∧
        Reply.answer client.limits.reading.levels question.format reply = .ok value := by
  unfold ask
  cases sent : client.exchange? question with
  | error fault => simp
  | ok exchange =>
    cases received : (client.backend.complete exchange session.state).1 with
    | error error => simp [received]
    | ok reply => simp [received, mapError_eq_ok_iff]

/-- The answer to a question without a form of its own is validated, unless it is the analysis of a
reply that was accepted for its components; such an analysis is always the answer. -/
theorem ask_validated_unless_overlooked (plain : Reply.asksForm question.format = false) :
    (∀ value, (client.ask question session).1 = .ok value →
      Reply.Validated value ∨
        ∃ reply, client.Replies question session reply ∧ Reply.Overlooked reply value) ∧
    ∀ reply value, client.Replies question session reply → Reply.Overlooked reply value →
      (client.ask question session).1 = .ok value := by
  constructor
  · intro value answered
    obtain ⟨exchange, reply, sent, received, answer⟩ := (client.ask_eq_ok_iff _ _).mp answered
    obtain ⟨text, rfl⟩ := Reply.exists_text_of_answer answer
    obtain ⟨reply, read, accepted, rfl⟩ := Reply.answer_eq_ok_iff.mp answer
    rcases Reply.select_of_accepted plain accepted with validated | overlooked
    · exact .inl validated
    · exact .inr ⟨reply, ⟨exchange, text, sent, received, read⟩, overlooked⟩
  · rintro reply value ⟨exchange, text, sent, received, read⟩ overlooked
    exact (client.ask_eq_ok_iff _ _).mpr
      ⟨exchange, .string text, sent, received, overlooked.answer plain read⟩

/-! ## Two replies -/

/-- A client whose backend gives prepared replies. -/
def scripted : Client (List String) := ⟨.scripted, "2020-01-02T03:04:05.678901+00:00", .least⟩

/-- A question about nothing, without a form of its own. -/
def emptyQuestion : Question := ⟨"p", .object [], none⟩

/-- A reply with an analysis of one module. -/
def moduleReply : String :=
  "\x7b\"analysis\": \x7b\"modules\": [\x7b\"name\": \"m\", \"description\": \"d\"\x7d]\x7d\x7d"

/-- A reply with a component, and with a word for an analysis. -/
def mixedReply : String :=
  "\x7b\"components\": [" ++
    "\x7b\"type\": \"function\", \"name\": \"f\", \"description\": \"d\"\x7d], " ++
    "\"analysis\": \"none\"\x7d"

/-- An outcome is the value that it gives. -/
theorem eq_ok_of_toOption {ε α : Type} {outcome : Except ε α} {value : α}
    (gives : outcome.toOption = some value) : outcome = .ok value := by
  cases outcome with
  | error error => contradiction
  | ok other => exact congrArg Except.ok (Option.some.inj gives)

/-- The analysis of one module is the answer, and is validated; there are no components beside
which it could have been overlooked. -/
theorem ask_validated_moduleReply :
    Reply.asksForm emptyQuestion.format = false ∧
      ∃ value, (scripted.ask emptyQuestion ⟨[], [moduleReply]⟩).1 = .ok value ∧
        Reply.Validated value := by
  have answered : (scripted.ask emptyQuestion ⟨[], [moduleReply]⟩).1 =
      .ok (.object [("modules",
        .array [.object [("name", .string "m"), ("description", .string "d")]])]) :=
    eq_ok_of_toOption (by decide +kernel)
  refine ⟨rfl, _, answered, ?_⟩
  have checked := scripted.ask_validated_unless_overlooked emptyQuestion ⟨[], [moduleReply]⟩ rfl
  rcases checked.1 _ answered with validated | ⟨reply, ⟨_, text, _, received, read⟩, overlooked⟩
  · exact validated
  · obtain rfl : moduleReply = text := Json.string.inj (Except.ok.inj received)
    obtain ⟨⟨items, components, _⟩, _⟩ := overlooked
    have missing : ((Reply.object scripted.limits.reading.levels moduleReply).toOption.bind
        (·.get? "components")) = none := by
      decide +kernel
    rw [read] at missing
    simp [Except.toOption, components] at missing

/-- A word for an analysis is delivered where there are components, though it is no analysis. -/
theorem ask_delivers_mixedReply :
    Reply.asksForm emptyQuestion.format = false ∧
      (scripted.ask emptyQuestion ⟨[], [mixedReply]⟩).1 = .ok (.string "none") ∧
      ¬Reply.Validated (.string "none") := by
  refine ⟨rfl, eq_ok_of_toOption (by decide +kernel), ?_⟩
  rintro (⟨items, list, _⟩ | fits)
  · contradiction
  · obtain ⟨fields, object⟩ := fits.object
    contradiction

end Dialogue.Client

end CodeAtlas
