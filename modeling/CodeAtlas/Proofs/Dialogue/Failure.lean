import CodeAtlas.Proofs.Dialogue.Conversation
import CodeAtlas.Proofs.Reply.Object

/-!
# How questions fail

A backend that replies with texts fails, and is rejected, in ways that are reported. A question to
it that can be put at all fails in another way exactly if the text of the reply is too large to be
read, which escapes: `ask_reported_unless_overlarge`.
-/
namespace CodeAtlas

open Json (Held Layout Regular)

namespace Reply

variable {levels : Nat} {format : Option Json} {text : String}

/-- A text without an object is not answered. -/
theorem answer_of_object_error {fault : Fault} (faulty : object levels text = .error fault) :
    answer levels format (.string text) = .error fault := by
  simp only [answer, faulty]
  rfl

/-- A text with an object is answered by what is selected from it, or the object is rejected. -/
theorem answer_of_object_ok (format : Option Json) {reply : Json}
    (found : object levels text = .ok reply) :
    answer levels format (.string text) = .ok (select format reply) ∨
      ∃ rejection, answer levels format (.string text) = .error (.rejected rejection) := by
  cases rejected : rejection? format reply with
  | none => exact .inl (answer_eq_ok_iff.mpr ⟨reply, found, rejected, rfl⟩)
  | some rejection =>
    have refused : check format reply = .error (.rejected rejection) := by
      simp only [check, rejected]
    exact .inr ⟨rejection, by simp only [answer, found, bind, Except.bind, refused]⟩

end Reply

namespace Dialogue

open Reply (Expected Overlarge)

variable {σ : Type}

/-- A backend speaks if it replies with texts, and fails only in ways that are reported. -/
def Backend.Speaks (backend : Backend σ) : Prop :=
  ∀ exchange state,
    (∃ text, (backend.complete exchange state).1 = .ok (.string text)) ∨
      ∃ error, (backend.complete exchange state).1 = .error error ∧
        Service.isReported (.backend error) = true

/-- Prepared replies are texts. -/
theorem Backend.scripted_speaks : Backend.scripted.Speaks := by
  rintro exchange (_ | ⟨reply, replies⟩)
  · exact .inr ⟨.noMoreReplies, rfl, rfl⟩
  · exact .inl ⟨reply, rfl⟩

/-- A fault that names a text is reported. -/
theorem isReported_of_names {text : String} {fault : Reply.Fault} (names : fault.Names text) :
    Service.isReported (.reply fault) = true := by
  cases fault with
  | noObject other => rfl
  | notJson other excerpt fault place => rfl
  | _ => exact absurd names id

/-- A text is not answered in a way that is not reported exactly if it is too large. -/
theorem exists_unreported_answer_iff (levels : Nat) (format : Option Json) (text : String) :
    (∃ fault, Reply.answer levels format (.string text) = .error fault ∧
      Service.isReported (.reply fault) = false) ↔ Overlarge levels text := by
  constructor
  · rintro ⟨fault, failed, unreported⟩
    by_contra small
    have expected := (Reply.object_expected_iff levels text).mpr small
    cases found : Reply.object levels text with
    | error other =>
      rw [found] at expected
      obtain rfl := Except.error.inj ((Reply.answer_of_object_error found).symm.trans failed)
      rw [isReported_of_names expected] at unreported
      contradiction
    | ok reply =>
      rcases Reply.answer_of_object_ok format found with answered | ⟨_, rejected⟩
      · rw [answered] at failed
        contradiction
      · obtain rfl := Except.error.inj (rejected.symm.trans failed)
        contradiction
  · rintro ⟨excerpt, error, found, stopped, limit⟩
    have faulty : Reply.object levels text = .error (.ofRead text excerpt error) := by
      rw [Reply.object_of_excerpt? found, stopped]
      rfl
    refine ⟨_, Reply.answer_of_object_error faulty, ?_⟩
    cases error with
    | syntaxFault fault place => exact absurd limit id
    | longInteger count => rfl
    | tooDeep inObject => rfl

namespace Client

variable (client : Client σ) (session : Session σ)

/-- A question that is put to a backend that speaks fails in a way that is not reported exactly if
the text of the reply is too large. -/
theorem exists_unreported_iff {inquiry : Inquiry} (sends : client.Sends inquiry)
    (speaks : client.backend.Speaks) :
    (∃ error, (client.ask inquiry.question session).1 = .error error ∧
      Service.isReported error = false) ↔
    ∃ text, (client.backend.complete inquiry.exchange session.state).1 = .ok (.string text) ∧
      Overlarge client.limits.reading.levels text := by
  rw [client.ask_inquiry session sends]
  rcases speaks inquiry.exchange session.state with ⟨text, replied⟩ | ⟨error, failed, reported⟩
  · have texts : (∃ other, (client.backend.complete inquiry.exchange session.state).1 =
        .ok (.string other) ∧ Overlarge client.limits.reading.levels other) ↔
          Overlarge client.limits.reading.levels text := by
      simp [replied]
    rw [texts, ← exists_unreported_answer_iff _ inquiry.question.format text, replied]
    cases answered : Reply.answer client.limits.reading.levels inquiry.question.format
      (.string text) with
    | ok value => simp [Question.verdict_of_answer answered]
    | error fault => simp [Question.verdict_of_fault answered]
  · simp [failed, reported]

/-- A question that cannot be put fails in a way that is not reported. -/
theorem unreported_of_unsent {question : Question} {error : QueryError}
    (unsent : client.exchange? question = .error error) : Service.isReported error = false := by
  unfold exchange? at unsent
  split at unsent
  · cases unsent
    rfl
  · dsimp only at unsent
    split at unsent
    · cases unsent
      rfl
    · contradiction

/-- A question to a backend that speaks fails only in ways that are reported exactly if it can be
put and the text of the reply, if there is one, is not too large. -/
theorem ask_reported_iff (question : Question) (speaks : client.backend.Speaks) :
    (∀ error, (client.ask question session).1 = .error error → Service.isReported error = true) ↔
      ∃ exchange, client.exchange? question = .ok exchange ∧
        ∀ text, (client.backend.complete exchange session.state).1 = .ok (.string text) →
          ¬Overlarge client.limits.reading.levels text := by
  cases sent : client.exchange? question with
  | error error =>
    have unasked : (client.ask question session).1 = .error error := by
      simp only [ask, sent]
    simp [unasked, client.unreported_of_unsent sent]
  | ok exchange =>
    have sends : client.Sends ⟨question, exchange⟩ := sent
    have unreported := (client.exists_unreported_iff session sends speaks).not
    simpa using unreported

/-- A text gives an object, or a fault that names the text, and a question to a backend that speaks
fails only in ways that are reported if it can be put, exactly as long as no text is too large; such
a text has more digits in a row or opens more brackets than the reader takes. -/
theorem ask_reported_unless_overlarge (question : Question) (speaks : client.backend.Speaks) :
    (∀ levels text, Expected text (Reply.object levels text) ↔ ¬Overlarge levels text) ∧
      ((∀ error, (client.ask question session).1 = .error error →
          Service.isReported error = true) ↔
        ∃ exchange, client.exchange? question = .ok exchange ∧
          ∀ text, (client.backend.complete exchange session.state).1 = .ok (.string text) →
            ¬Overlarge client.limits.reading.levels text) ∧
      ∀ levels text, Overlarge levels text → ∃ excerpt, Reply.excerpt? text.toList = some excerpt ∧
        ((∃ count, Json.digitLimit < count ∧ Json.HasDigits excerpt count) ∨
          levels < excerpt.countP Json.opens) := by
  exact ⟨Reply.object_expected_iff, client.ask_reported_iff session question speaks,
    fun _ _ => Overlarge.due⟩

/-- The question about nothing, with its conversation. -/
def emptyInquiry : Inquiry :=
  ⟨emptyQuestion,
    emptyQuestion.exchange (.object [("_meta", Request.contextRecord scripted.moment)])⟩

/-- The question about nothing is put by its conversation. -/
theorem sends_emptyInquiry : scripted.Sends emptyInquiry := rfl

/-- A text without an object is not too large, and that a question gets it for a reply is
reported. -/
theorem ask_reported_without_object :
    scripted.backend.Speaks ∧
      (scripted.ask emptyInquiry.question ⟨[], ["no json here"]⟩).1 =
        .error (.reply (.noObject "no json here")) ∧
      Service.isReported (.reply (.noObject "no json here")) = true := by
  have failed : (scripted.ask emptyInquiry.question ⟨[], ["no json here"]⟩).1 =
      .error (.reply (.noObject "no json here")) :=
    rfl
  obtain ⟨expected, reported, _⟩ := scripted.ask_reported_unless_overlarge
    ⟨[], ["no json here"]⟩ emptyQuestion Backend.scripted_speaks
  have small : ¬Overlarge scripted.limits.reading.levels "no json here" :=
    (expected _ "no json here").mp rfl
  refine ⟨Backend.scripted_speaks, failed, reported.mpr ⟨_, sends_emptyInquiry, ?_⟩ _ failed⟩
  intro text replied
  obtain rfl := Json.string.inj (Except.ok.inj replied)
  exact small

/-! ## A reply that is too large -/

/-- An object with an integer of one digit more than can be read. -/
def longObject : Json := .object [("a", .int (10 ^ Json.digitLimit))]

/-- The text of the object with the long integer. -/
def longReply : String := longObject.text .spaced

/-- A power of ten has more digits than its exponent. -/
theorem lt_length_toDigits_pow {exponent : Nat} (positive : 0 < exponent) :
    exponent < (Nat.toDigits 10 ((10 : Int) ^ exponent).natAbs).length := by
  have magnitude : ((10 : Int) ^ exponent).natAbs = 10 ^ exponent := Int.natAbs_pow 10 exponent
  rw [magnitude]
  exact Nat.lt_of_not_le fun short =>
    Nat.lt_irrefl _ ((Nat.length_toDigits_le_iff (by decide) positive).mp short)

/-- The object with the long integer cannot be held at any depth. -/
theorem longObject_unheld (depth : Nat) : ¬Held depth longObject := by
  intro held
  cases held with
  | object _ each =>
    cases each _ (.head _) with
    | int short => exact absurd short (Nat.not_le.mpr (lt_length_toDigits_pow (by decide)))

/-- The text of the object with the long integer is too large, however many levels can be read. -/
theorem overlarge_longReply (levels : Nat) : Overlarge levels longReply := by
  have regular : Regular longObject :=
    .object (List.nodup_singleton _) (List.forall_mem_singleton.mpr (.int _))
  have around := Reply.overlarge_around_text Layout.spaced_lawful "" "" (by decide) (by decide)
    regular (longObject_unheld levels)
  rwa [String.empty_append, String.append_empty] at around

/-- The reply with the long integer gives neither an object nor a fault that names it, however many
levels can be read, and a question that gets it fails in a way that is not reported. -/
theorem ask_longReply_unreported :
    (∀ levels, ¬Expected longReply (Reply.object levels longReply)) ∧
      ∃ error, (scripted.ask emptyInquiry.question ⟨[], [longReply]⟩).1 = .error error ∧
        Service.isReported error = false :=
  ⟨fun levels => (Reply.object_expected_iff levels longReply).not.mpr
      (not_not.mpr (overlarge_longReply levels)),
    (scripted.exists_unreported_iff ⟨[], [longReply]⟩ sends_emptyInquiry
      Backend.scripted_speaks).mpr ⟨longReply, rfl, overlarge_longReply _⟩⟩

end Client

end Dialogue

end CodeAtlas
