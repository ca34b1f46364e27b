import CodeAtlas.Proofs.Dialogue.Failure
import CodeAtlas.Proofs.Project.Root

/-!
# What a model server may do

A server may return any value whatever, or fail. What comes of that is a text that is not empty, or
a failure that is reported, exactly if the value has content in its message that is a text or counts
as false. So the documentation of a project fails in a way that is not reported exactly if the
server returns another value, or a text that is too large to be read, to a question that is put, or
if no question can be put at all: `explainCodebase_escapes_iff`.
-/
namespace CodeAtlas

open Dialogue Survey

namespace Dialogue

open Reply (Overlarge)

/-! ## Values of a server -/

namespace Model

variable {value part : Json} {field : String}

/-- The content of the message in a value. -/
def content? (value : Json) : Option Json := (value.get? "message").bind (·.get? "content")

/-- A field that a value has is its part. -/
theorem part_of_some (found : value.get? field = some part) :
    Model.part value field = .ok part := by
  cases value with
  | object fields =>
    rw [Json.get?] at found
    simp only [Model.part, found]
  | _ => contradiction

/-- A field that a value lacks is missed in a way that is not reported. -/
theorem part_of_none (missing : value.get? field = none) :
    ∃ error, Model.part value field = .error error ∧
      Service.isReported (.backend error) = false := by
  cases value with
  | object fields =>
    rw [Json.get?] at missing
    exact ⟨.missingField field, by simp only [Model.part, missing], rfl⟩
  | _ => exact ⟨.notAnObject, rfl, rfl⟩

/-- Content is given if it counts as true, and is a failure otherwise. -/
theorem content_of_some {content : Json} (found : content? value = some content) :
    Model.content value = if content.isTruthy then .ok content else .error .emptyReply := by
  obtain ⟨message, inside, there⟩ := Option.bind_eq_some_iff.mp found
  simp only [Model.content, part_of_some inside, part_of_some there, bind, Except.bind]
  rfl

/-- Content that is missing is missed in a way that is not reported. -/
theorem content_of_none (missing : content? value = none) :
    ∃ error, Model.content value = .error error ∧ Service.isReported (.backend error) = false := by
  unfold Model.content
  cases inside : value.get? "message" with
  | none =>
    obtain ⟨error, failed, unreported⟩ := part_of_none inside
    exact ⟨error, by rw [failed]; rfl, unreported⟩
  | some message =>
    have lacking : message.get? "content" = none := by simpa [content?, inside] using missing
    obtain ⟨error, failed, unreported⟩ := part_of_none lacking
    exact ⟨error, by rw [part_of_some inside]; simp only [bind, Except.bind, failed], unreported⟩

/-- What comes of a request is as it should be: a text that is not empty, or a failure that is
reported. -/
def Proper (outcome : Except BackendError Json) : Prop :=
  (∃ text, text ≠ "" ∧ outcome = .ok (.string text)) ∨
    ∃ error, outcome = .error error ∧ Service.isReported (.backend error) = true

end Model

/-- A server returns a value that has no content in a message, or content that counts as true and is
no text. -/
def ServerReply.Malformed : ServerReply → Prop
  | .value json => ∀ content, Model.content? json = some content →
      content.isTruthy = true ∧ ∀ text, content ≠ .string text
  | .failure _ => False

/-- What comes of a malformed reply is a failure that is not reported, or no text. -/
theorem ServerReply.Malformed.outcome {reply : ServerReply} (malformed : reply.Malformed) :
    (∃ error, Model.outcome reply = .error error ∧
        Service.isReported (.backend error) = false) ∨
      ∃ content, Model.outcome reply = .ok content ∧ ∀ text, content ≠ .string text := by
  cases reply with
  | failure reason => exact malformed.elim
  | value json =>
    cases found : Model.content? json with
    | none => exact .inl (Model.content_of_none found)
    | some content =>
      obtain ⟨truthy, other⟩ := malformed content found
      refine .inr ⟨content, ?_, other⟩
      rw [Model.outcome, Model.content_of_some found, if_pos truthy]

/-- What comes of a request is as it should be exactly if the reply is not malformed. -/
theorem Model.outcome_proper_iff (reply : ServerReply) :
    Model.Proper (Model.outcome reply) ↔ ¬reply.Malformed := by
  constructor
  · intro proper malformed
    rcases malformed.outcome with ⟨error, failed, unreported⟩ | ⟨content, given, other⟩
    · rw [Model.Proper, failed] at proper
      simp [unreported] at proper
    · rw [Model.Proper, given] at proper
      rcases proper with ⟨text, _, same⟩ | ⟨error, same, _⟩
      · exact other text (Except.ok.inj same)
      · contradiction
  · intro formed
    cases reply with
    | failure reason => exact .inr ⟨_, rfl, rfl⟩
    | value value =>
      obtain ⟨content, found, fine⟩ : ∃ content, Model.content? value = some content ∧
          ¬(content.isTruthy = true ∧ ∀ text, content ≠ .string text) := by
        simpa [ServerReply.Malformed] using formed
      rw [Model.outcome, Model.content_of_some found]
      by_cases truthy : content.isTruthy = true
      · obtain ⟨text, rfl⟩ : ∃ text, content = .string text := by
          simpa [truthy] using fine
        refine .inl ⟨text, ?_, if_pos truthy⟩
        rintro rfl
        contradiction
      · exact .inr ⟨_, if_neg truthy, rfl⟩

/-- A reply that is malformed, or whose text is too large to be read with so many levels. -/
def ServerReply.Unusable (levels : Nat) (reply : ServerReply) : Prop :=
  reply.Malformed ∨ ∃ text, Model.outcome reply = .ok (.string text) ∧ Overlarge levels text

/-- A question has no answer in a way that is not reported exactly if the reply to it cannot be
used. -/
theorem Question.verdict_unreported_iff (levels : Nat) (question : Question)
    (reply : ServerReply) :
    (∃ error, question.verdict levels (Model.outcome reply) = .error error ∧
      Service.isReported error = false) ↔ reply.Unusable levels := by
  by_cases malformed : reply.Malformed
  · simp only [ServerReply.Unusable, malformed, true_or, iff_true]
    rcases malformed.outcome with ⟨error, failed, unreported⟩ | ⟨content, given, other⟩
    · exact ⟨_, by rw [failed, verdict_error], unreported⟩
    · refine ⟨.reply .notText, ?_, rfl⟩
      rw [given]
      refine verdict_of_fault ?_
      unfold Reply.answer
      split
      · exact absurd rfl (other _)
      · rfl
  · simp only [ServerReply.Unusable, malformed, false_or]
    rcases (Model.outcome_proper_iff reply).mpr malformed with
      ⟨text, _, given⟩ | ⟨error, failed, reported⟩
    · simp only [given, Except.ok.injEq, Json.string.injEq, exists_eq_left']
      rw [← exists_unreported_answer_iff levels question.format text]
      cases answered : Reply.answer levels question.format (.string text) with
      | ok value => simp [verdict_of_answer answered]
      | error fault => simp [verdict_of_fault answered]
    · simp [failed, reported]

/-! ## Questions that are put -/

namespace Client

variable {σ : Type} (client : Client σ)

/-- What becomes of later questions is decided by the state that the earlier ones leave. -/
theorem verdicts_append (state : σ) (front back : List Inquiry) :
    client.verdicts state (front ++ back) =
      client.verdicts state front ++
        client.verdicts (client.backend.after (front.map Inquiry.exchange) state) back := by
  induction front generalizing state with
  | nil => rfl
  | cons inquiry front ih =>
    rw [List.cons_append, verdicts_cons, verdicts_cons, ih]
    rfl

/-- What the backend replies to a question after others. -/
def replyTo (state : σ) (front : List Inquiry) (inquiry : Inquiry) :
    Except BackendError Json :=
  (client.backend.complete inquiry.exchange
    (client.backend.after (front.map Inquiry.exchange) state)).1

/-- Where questions have verdicts, the question to a verdict stands behind those to the verdicts
before it. -/
theorem exists_inquiry_of_verdicts {state : σ} {inquiries : List Inquiry}
    {before after : List (Except QueryError Json)} {verdict : Except QueryError Json}
    (decided : client.verdicts state inquiries = before ++ verdict :: after) :
    ∃ front inquiry rest, inquiries = front ++ inquiry :: rest ∧
      client.verdicts state front = before ∧
      inquiry.question.verdict client.limits.reading.levels
        (client.replyTo state front inquiry) = verdict := by
  induction inquiries generalizing state before with
  | nil => simp [verdicts] at decided
  | cons first inquiries ih =>
    rw [verdicts_cons] at decided
    cases before with
    | nil => exact ⟨[], first, inquiries, rfl, rfl, (List.cons_eq_cons.mp decided).1⟩
    | cons other before =>
      obtain ⟨same, later⟩ := List.cons_eq_cons.mp decided
      obtain ⟨front, inquiry, rest, rfl, earlier, last⟩ := ih later
      exact ⟨first :: front, inquiry, rest, rfl, by rw [verdicts_cons, same, earlier], last⟩

/-- A question of a survey is put if the lines that are sent can be written, and if the questions
before it are answered. -/
def Puts (chunker : Chunker) (analysis : Analysis) (state : σ) (front : List Inquiry)
    (inquiry : Inquiry) : Prop :=
  analysis.Sendable ∧
    (∃ rest, inquiries chunker analysis client.moment = front ++ inquiry :: rest) ∧
    ∃ answers : List Json, client.verdicts state front = answers.map .ok

/-- A survey is made, or a question is put that has no answer, if the lines that are sent can be
written. -/
theorem survey_made_or_puts (chunker : Chunker) {analysis : Analysis} (session : Session σ)
    (sendable : analysis.Sendable) :
    (∃ survey, (client.survey chunker analysis session).1 = .ok survey) ∨
      ∃ front inquiry error, client.Puts chunker analysis session.state front inquiry ∧
        inquiry.question.verdict client.limits.reading.levels
          (client.replyTo session.state front inquiry) = .error error := by
  rcases exists_answers_or_error (client.verdicts session.state
    (inquiries chunker analysis client.moment)) with
    ⟨answers, answered⟩ | ⟨answers, error, rest, stopped⟩
  · left
    rw [survey_eq, askAll_accepted session (sends_inquiries sendable) answered]
    exact ⟨_, rfl⟩
  · right
    obtain ⟨front, inquiry, back, asked, answered, failed⟩ :=
      client.exists_inquiry_of_verdicts stopped
    exact ⟨front, inquiry, error, ⟨sendable, ⟨back, asked⟩, answers, answered⟩, failed⟩

variable {client}

/-- A survey fails as a question does that is put and has no answer. -/
theorem survey_of_puts {chunker : Chunker} {analysis : Analysis} {session : Session σ}
    {front : List Inquiry} {inquiry : Inquiry} {error : QueryError}
    (put : client.Puts chunker analysis session.state front inquiry)
    (failed : inquiry.question.verdict client.limits.reading.levels
      (client.replyTo session.state front inquiry) = .error error) :
    (client.survey chunker analysis session).1 = .error error := by
  obtain ⟨sendable, ⟨rest, asked⟩, answers, answered⟩ := put
  have stopped := client.verdicts_append session.state front (inquiry :: rest)
  rw [← asked, answered, verdicts_cons, ← replyTo, failed] at stopped
  rw [survey_rejected session sendable stopped]

end Client

/-! ## Conversations with a server -/

namespace Chat

/-- Each conversation takes one reply of the server. -/
theorem replies_after (model : Model) (exchanges : List Exchange) (chat : Chat) :
    ((backend model).after exchanges chat).replies = chat.replies.drop exchanges.length := by
  induction exchanges generalizing chat with
  | nil => rfl
  | cons exchange exchanges ih =>
    rw [Backend.after, ih]
    simp [backend]

/-- The reply that a server gives after so many others. -/
def replyAfter (chat : Chat) (count : Nat) : ServerReply := chat.replies[count]?.getD exhausted

end Chat

end Dialogue

namespace Service

variable {service : Service} (moment : String) {system : FileSystem} {directory : String}
  {found : ProjectAnalysis} (session : Session Chat)

/-- What comes of a question to the server is what comes of the reply in its place. -/
theorem replyTo_client (front : List Inquiry) (inquiry : Inquiry) (chat : Chat) :
    (service.client moment).replyTo chat front inquiry =
      Model.outcome (chat.replyAfter front.length) := by
  have replies := Chat.replies_after service.model (front.map Inquiry.exchange) chat
  rw [List.length_map] at replies
  change Model.outcome (((Chat.backend service.model).after (front.map Inquiry.exchange)
    chat).replies.head?.getD Chat.exhausted) = _
  rw [replies, List.head?_drop, Chat.replyAfter]

/-- The documentation of a project succeeds if there is a survey of it, and fails as the survey
does. -/
theorem explainCodebase_survey (analyzed : service.analysis system directory = .ok found) :
    (∀ survey, ((service.client moment).survey service.chunker found.result session).1 =
        .ok survey →
      ∃ data, (service.explainCodebase moment system directory session).1 =
        .ok (success data)) ∧
    ∀ error, ((service.client moment).survey service.chunker found.result session).1 =
        .error error →
      (service.explainCodebase moment system directory session).1 = queryFailure error := by
  unfold explainCodebase
  simp only [analyzed]
  rcases (service.client moment).survey service.chunker found.result session with
    ⟨error | survey, after⟩
  · exact ⟨nofun, fun other failed => congrArg queryFailure (Except.error.inj failed)⟩
  · exact ⟨fun other made => ⟨_, rfl⟩, nofun⟩

/-- A failure of a question that is reported does not escape. -/
theorem queryFailure_of_reported {error : QueryError} (reported : isReported error = true) :
    queryFailure error = .ok (failure error.message) :=
  if_pos reported

/-- The failure of a question escapes exactly if it is not reported. -/
theorem queryFailure_escapes_iff {error : QueryError} :
    (∃ escaped, queryFailure error = .error escaped) ↔ isReported error = false := by
  unfold queryFailure
  cases isReported error <;> simp

/-- The documentation of a project fails as the first question that is put and has no answer. -/
theorem explainCodebase_of_puts (analyzed : service.analysis system directory = .ok found)
    {front : List Inquiry} {inquiry : Inquiry} {error : QueryError}
    (put : (service.client moment).Puts service.chunker found.result session.state front inquiry)
    (unanswered : inquiry.question.verdict service.limits.reading.levels
      (Model.outcome (session.state.replyAfter front.length)) = .error error) :
    (service.explainCodebase moment system directory session).1 = queryFailure error := by
  obtain ⟨_, failed⟩ := explainCodebase_survey moment session analyzed
  rw [← replyTo_client moment front inquiry] at unanswered
  exact failed error (Client.survey_of_puts put unanswered)

/-- Whatever a server does, what comes of it is a text that is not empty or a failure that is
reported exactly if its reply is not malformed. The documentation of a project fails in a way that
is not reported exactly if the reply to a question that is put cannot be used, or if no question can
be put because of a line that cannot be written; every other reply that gives no answer is
reported. -/
theorem explainCodebase_escapes_iff (analyzed : service.analysis system directory = .ok found) :
    (∀ reply, Model.Proper (Model.outcome reply) ↔ ¬reply.Malformed) ∧
    ((∃ error, (service.explainCodebase moment system directory session).1 = .error error) ↔
      ¬found.result.Sendable ∨ ∃ front inquiry,
        (service.client moment).Puts service.chunker found.result session.state front inquiry ∧
        (session.state.replyAfter front.length).Unusable service.limits.reading.levels) ∧
    ∀ front inquiry error,
      (service.client moment).Puts service.chunker found.result session.state front inquiry →
      inquiry.question.verdict service.limits.reading.levels
        (Model.outcome (session.state.replyAfter front.length)) = .error error →
      ¬(session.state.replyAfter front.length).Unusable service.limits.reading.levels →
        (service.explainCodebase moment system directory session).1 =
          .ok (failure error.message) := by
  obtain ⟨made, failed⟩ := explainCodebase_survey moment session analyzed
  refine ⟨Model.outcome_proper_iff, ⟨?_, ?_⟩, ?_⟩
  · rintro ⟨escaped, escapes⟩
    by_cases sendable : found.result.Sendable
    · rcases (service.client moment).survey_made_or_puts service.chunker session sendable with
        ⟨survey, succeeded⟩ | ⟨front, inquiry, error, put, unanswered⟩
      · obtain ⟨data, documented⟩ := made survey succeeded
        cases documented.symm.trans escapes
      · rw [replyTo_client] at unanswered
        rw [explainCodebase_of_puts moment session analyzed put unanswered] at escapes
        have unreported := queryFailure_escapes_iff.mp ⟨escaped, escapes⟩
        exact .inr ⟨front, inquiry, put, (inquiry.question.verdict_unreported_iff _ _).mp
          ⟨error, unanswered, unreported⟩⟩
    · exact .inl sendable
  · rintro (unsendable | ⟨front, inquiry, put, unusable⟩)
    · obtain ⟨error, unasked⟩ : ∃ error,
          (service.client moment).survey service.chunker found.result session =
            (.error (.unwritten error), session) :=
        Client.survey_of_unsendable session unsendable
      exact ⟨_, failed (.unwritten error) (by rw [unasked])⟩
    · obtain ⟨error, unanswered, unreported⟩ :=
        (inquiry.question.verdict_unreported_iff _ _).mpr unusable
      rw [explainCodebase_of_puts moment session analyzed put unanswered]
      exact queryFailure_escapes_iff.mpr unreported
  · intro front inquiry error put unanswered usable
    have reported : isReported error = true := by
      by_contra unreported
      exact usable ((inquiry.question.verdict_unreported_iff _ _).mp
        ⟨error, unanswered, by simpa using unreported⟩)
    rw [explainCodebase_of_puts moment session analyzed put unanswered]
    exact queryFailure_of_reported reported

/-- A file system with a directory that has no entries. -/
def bareProject : FileSystem := .plain (.directory [("p", .directory [])])

/-- A conversation with a server that will do these things. -/
def chatting (replies : List ServerReply) : Session Chat := ⟨[], ⟨replies, []⟩⟩

/-- That a server fails is reported when a project is documented, and is as it should be. -/
theorem explainCodebase_failingServer :
    standard.analysis bareProject "p" = .ok ⟨.empty, [], 0, 0⟩ ∧
      Model.Proper (Model.outcome (.failure "refused")) ∧
      ¬∃ error, (standard.explainCodebase "now" bareProject "p"
        (chatting [.failure "refused"])).1 = .error error := by
  have analyzed : standard.analysis bareProject "p" = .ok ⟨.empty, [], 0, 0⟩ := rfl
  obtain ⟨proper, escapes, _⟩ :=
    explainCodebase_escapes_iff "now" (chatting [.failure "refused"]) analyzed
  refine ⟨analyzed, (proper _).mpr id, escapes.not.mpr ?_⟩
  -- Whichever question it is that is put, the server fails.
  rintro (unsendable | ⟨front, inquiry, _, malformed | ⟨text, given, _⟩⟩)
  · exact unsendable ⟨List.forall_mem_nil _, List.forall_mem_nil _⟩
  · cases front <;> exact malformed
  · cases front <;> cases given

/-- An object without a message is neither a text nor reported, and it ends the documentation of a
project in a way that is not reported. -/
theorem explainCodebase_emptyObject :
    ¬Model.Proper (Model.outcome (.value (.object []))) ∧
      (standard.explainCodebase "now" bareProject "p" (chatting [.value (.object [])])).1 =
        .error (.query (.backend (.missingField "message"))) := by
  refine ⟨?_, rfl⟩
  rw [Model.outcome_proper_iff]
  exact not_not.mpr nofun

end Service

end CodeAtlas
