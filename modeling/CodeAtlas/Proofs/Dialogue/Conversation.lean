import CodeAtlas.Dialogue.Survey
import CodeAtlas.Proofs.Chunk.Splitting
import CodeAtlas.Proofs.Dialogue.Section
import CodeAtlas.Proofs.Project.Isolation
import CodeAtlas.Service

/-!
# Conversations in order

Questions are put to a backend one after the other, up to the first whose reply is missing or
rejected. A survey asks for an overview, then about each chunk, then for the dependencies, each time
in a conversation that sets off what it is about. What it gives and which conversations it had
follow from the replies alone: `survey_follows_replies`.
-/
namespace CodeAtlas

open Dialogue Survey

namespace Dialogue

variable {σ : Type}

/-! ## Replies -/

namespace Backend

/-- What a backend replies to conversations, one after the other. -/
def replies (backend : Backend σ) : List Exchange → σ → List (Except BackendError Json)
  | [], _ => []
  | exchange :: exchanges, state =>
    (backend.complete exchange state).1 ::
      backend.replies exchanges (backend.complete exchange state).2

/-- The state of a backend after conversations. -/
def after (backend : Backend σ) : List Exchange → σ → σ
  | [], state => state
  | exchange :: exchanges, state => backend.after exchanges (backend.complete exchange state).2

/-- Prepared replies are given in order, and none once none is left. -/
theorem replies_scripted (exchanges : List Exchange) (prepared : List String) :
    scripted.replies exchanges prepared =
      (prepared.take exchanges.length).map (fun reply => .ok (.string reply)) ++
        List.replicate (exchanges.length - prepared.length) (.error .noMoreReplies) := by
  induction exchanges generalizing prepared with
  | nil => simp [replies]
  | cons exchange exchanges ih =>
    cases prepared with
    | nil =>
      change .error .noMoreReplies :: scripted.replies exchanges [] = _
      rw [ih]
      simp [List.replicate_succ]
    | cons reply prepared =>
      change .ok (.string reply) :: scripted.replies exchanges prepared = _
      rw [ih]
      simp

end Backend

/-- A session after more conversations. -/
def Session.after (session : Session σ) (backend : Backend σ) (exchanges : List Exchange) :
    Session σ :=
  ⟨session.exchanges ++ exchanges, backend.after exchanges session.state⟩

/-- No more conversations leave a session as it is. -/
@[simp]
theorem Session.after_nil (session : Session σ) (backend : Backend σ) :
    session.after backend [] = session := by
  simp [after, Backend.after]

/-- Conversations after a first one are those after both. -/
@[simp]
theorem Session.after_after (session : Session σ) (backend : Backend σ) (exchange : Exchange)
    (exchanges : List Exchange) :
    (session.after backend [exchange]).after backend exchanges =
      session.after backend (exchange :: exchanges) := by
  simp [after, Backend.after]

/-! ## Questions with their conversations -/

/-- A question and the conversation that puts it. -/
structure Inquiry where
  /-- The question. -/
  question : Question
  /-- The conversation. -/
  exchange : Exchange

/-- What becomes of a question with what a backend replies, of which so many levels can be read: an
answer, or why there is none. -/
def Question.verdict (levels : Nat) (question : Question) :
    Except BackendError Json → Except QueryError Json
  | .error error => .error (.backend error)
  | .ok reply => (Reply.answer levels question.format reply).mapError .reply

variable {levels : Nat}

/-- A question without a reply has no answer. -/
@[simp]
theorem Question.verdict_error (question : Question) (error : BackendError) :
    question.verdict levels (.error error) = .error (.backend error) :=
  rfl

/-- A question with an answer in its reply is answered. -/
theorem Question.verdict_of_answer {question : Question} {reply value : Json}
    (answered : Reply.answer levels question.format reply = .ok value) :
    question.verdict levels (.ok reply) = .ok value := by
  rw [verdict, answered]
  rfl

/-- A question without an answer in its reply has none. -/
theorem Question.verdict_of_fault {question : Question} {reply : Json} {fault : Reply.Fault}
    (failed : Reply.answer levels question.format reply = .error fault) :
    question.verdict levels (.ok reply) = .error (.reply fault) := by
  rw [verdict, failed]
  rfl

/-- Verdicts are all answers, or there is a first that is none. -/
theorem exists_answers_or_error {ε α : Type} (verdicts : List (Except ε α)) :
    (∃ answers : List α, verdicts = answers.map .ok) ∨
      ∃ (accepted : List α) (error : ε) (rest : List (Except ε α)),
        verdicts = accepted.map .ok ++ .error error :: rest := by
  induction verdicts with
  | nil => exact .inl ⟨[], rfl⟩
  | cons verdict verdicts ih =>
    cases verdict with
    | error error => exact .inr ⟨[], error, verdicts, rfl⟩
    | ok answer =>
      rcases ih with ⟨answers, rfl⟩ | ⟨accepted, error, rest, rfl⟩
      · exact .inl ⟨answer :: answers, rfl⟩
      · exact .inr ⟨answer :: accepted, error, rest, rfl⟩

namespace Client

variable (client : Client σ) (session : Session σ)

/-- A client puts a question by a conversation. -/
def Sends (inquiry : Inquiry) : Prop :=
  client.exchange? inquiry.question = .ok inquiry.exchange

/-- What becomes of questions with what the backend replies to them in order. -/
def verdicts (state : σ) (inquiries : List Inquiry) : List (Except QueryError Json) :=
  List.zipWith (fun inquiry reply => inquiry.question.verdict client.limits.reading.levels reply)
    inquiries (client.backend.replies (inquiries.map Inquiry.exchange) state)

/-- What becomes of a first question is decided before the others are asked. -/
theorem verdicts_cons (state : σ) (inquiry : Inquiry) (inquiries : List Inquiry) :
    client.verdicts state (inquiry :: inquiries) =
      inquiry.question.verdict client.limits.reading.levels
          (client.backend.complete inquiry.exchange state).1 ::
        client.verdicts (client.backend.complete inquiry.exchange state).2 inquiries :=
  rfl

/-- With prepared replies a question has the reply in its place, or none if there is none. -/
theorem verdicts_scripted (prepared : List String) (inquiries : List Inquiry) :
    scripted.verdicts prepared inquiries =
      List.zipWith (fun inquiry reply => inquiry.question.verdict 10 reply) inquiries
        ((prepared.take inquiries.length).map (fun reply => .ok (.string reply)) ++
          List.replicate (inquiries.length - prepared.length) (.error .noMoreReplies)) := by
  have replies := Backend.replies_scripted (inquiries.map Inquiry.exchange) prepared
  rw [List.length_map] at replies
  rw [verdicts, ← replies]
  rfl

/-- A question that is put is one conversation, and what becomes of it is its verdict. -/
theorem ask_inquiry {inquiry : Inquiry} (sends : client.Sends inquiry) :
    client.ask inquiry.question session =
      (inquiry.question.verdict client.limits.reading.levels
          (client.backend.complete inquiry.exchange session.state).1,
        session.after client.backend [inquiry.exchange]) := by
  rw [Sends] at sends
  simp only [ask, sends, Session.after, Backend.after]
  cases (client.backend.complete inquiry.exchange session.state).1 with
  | error error => rfl
  | ok reply => rfl

variable {client}

/-- Questions that are all answered give their answers, each after one conversation. -/
theorem askAll_accepted {inquiries : List Inquiry} {answers : List Json}
    (sends : ∀ inquiry ∈ inquiries, client.Sends inquiry)
    (accepted : client.verdicts session.state inquiries = answers.map .ok) :
    client.askAll (inquiries.map (·.question)) session =
      (.ok answers, session.after client.backend (inquiries.map Inquiry.exchange)) := by
  induction inquiries generalizing session answers with
  | nil =>
    obtain rfl : answers = [] := by simpa [verdicts, eq_comm] using accepted
    simp [askAll]
  | cons inquiry inquiries ih =>
    rw [verdicts_cons] at accepted
    cases answers with
    | nil => contradiction
    | cons answer answers =>
      obtain ⟨first, others⟩ := List.cons_eq_cons.mp accepted
      obtain ⟨put, puts⟩ := List.forall_mem_cons.mp sends
      have later := ih (session.after client.backend [inquiry.exchange]) puts others
      simp only [List.map_cons, askAll, client.ask_inquiry session put, first, later,
        Session.after_after]

/-- Questions are asked up to the first that has no answer, which is why all have none. -/
theorem askAll_rejected {inquiries : List Inquiry} {accepted : List Json} {error : QueryError}
    {rest : List (Except QueryError Json)} (sends : ∀ inquiry ∈ inquiries, client.Sends inquiry)
    (stopped : client.verdicts session.state inquiries = accepted.map .ok ++ .error error :: rest) :
    client.askAll (inquiries.map (·.question)) session =
      (.error error, session.after client.backend
        ((inquiries.map Inquiry.exchange).take (accepted.length + 1))) := by
  induction inquiries generalizing session accepted with
  | nil => simp [verdicts] at stopped
  | cons inquiry inquiries ih =>
    rw [verdicts_cons] at stopped
    obtain ⟨put, puts⟩ := List.forall_mem_cons.mp sends
    cases accepted with
    | nil =>
      obtain ⟨first, _⟩ := List.cons_eq_cons.mp stopped
      simp only [List.map_cons, askAll, client.ask_inquiry session put, first]
      rfl
    | cons answer accepted =>
      obtain ⟨first, others⟩ := List.cons_eq_cons.mp stopped
      have later := ih (session.after client.backend [inquiry.exchange]) puts others
      simp only [List.map_cons, askAll, client.ask_inquiry session put, first, later,
        Session.after_after, List.length_cons, List.take_succ_cons]

variable (client)

/-- Questions are asked as those of a first list and then those of a second. -/
theorem askAll_append (first second : List Question) :
    client.askAll (first ++ second) session =
      match client.askAll first session with
      | (.error error, session) => (.error error, session)
      | (.ok answers, session) =>
        match client.askAll second session with
        | (.error error, session) => (.error error, session)
        | (.ok others, session) => (.ok (answers ++ others), session) := by
  induction first generalizing session with
  | nil =>
    simp only [List.nil_append, askAll]
    rcases client.askAll second session with ⟨_ | others, after⟩ <;> rfl
  | cons question first ih =>
    simp only [List.cons_append, askAll]
    rcases client.ask question session with ⟨_ | answer, after⟩
    · rfl
    · simp only [ih]
      rcases client.askAll first after with ⟨_ | answers, later⟩
      · rfl
      · dsimp only
        rcases client.askAll second later with ⟨_ | others, last⟩ <;> rfl

end Client

/-! ## Surveys -/

namespace Survey

variable (chunker : Chunker) (analysis : Analysis) (moment : String)

/-- A question about an analysis, with the conversation that is about its record. -/
def inquiry (question : Question) (analysis : Analysis) : Inquiry :=
  ⟨question, question.exchange (Request.analysisRecord moment analysis)⟩

/-- The questions of a survey: the overview, the chunks in order, the dependencies. -/
def inquiries : List Inquiry :=
  inquiry moment (overviewQuestion analysis) analysis ::
    (chunker.chunkWithin chunker.budget analysis).map (fun chunk =>
      inquiry moment (componentQuestion chunk) chunk) ++
        [inquiry moment (dependencyQuestion analysis) analysis]

/-- What a survey asks, and what about: for an overview of the whole analysis, for the components of
each chunk in order, and for the dependencies in the whole analysis. -/
def asked : List (String × Analysis) :=
  (Request.overviewPrompt, analysis) ::
    (chunker.chunkWithin chunker.budget analysis).map (Request.componentPrompt, ·) ++
      [(Request.dependencyPrompt, analysis)]

/-- The survey that is made of answers: of the first, of those between, and of the last. -/
def ofAnswers (answers : List Json) : Survey :=
  ⟨answers.head?.getD .null, answers.tail.dropLast.flatMap componentsOf,
    answers.getLast?.getD .null⟩

/-- A survey is made of an overview, answers about chunks and dependencies. -/
theorem ofAnswers_append (overview dependencies : Json) (middle : List Json) :
    ofAnswers (overview :: middle ++ [dependencies]) =
      ⟨overview, middle.flatMap componentsOf, dependencies⟩ := by
  rw [ofAnswers, List.getLast?_concat]
  simp

end Survey

namespace Client

variable {client : Client σ} {session last : Session σ} {chunker : Chunker} {analysis : Analysis}

/-- The questions of a survey without their conversations. -/
theorem map_question_inquiries (moment : String) :
    (inquiries chunker analysis moment).map (·.question) =
      overviewQuestion analysis ::
        ((chunker.chunkWithin chunker.budget analysis).map componentQuestion ++
          [dependencyQuestion analysis]) := by
  simp [inquiries, inquiry, Function.comp_def]

/-- A survey asks its questions in order and is made of their answers. -/
theorem survey_eq (session : Session σ) :
    client.survey chunker analysis session =
      match client.askAll ((inquiries chunker analysis client.moment).map (·.question)) session with
      | (.error error, session) => (.error error, session)
      | (.ok answers, session) => (.ok (ofAnswers answers), session) := by
  rw [map_question_inquiries, askAll]
  unfold survey
  rcases client.ask (overviewQuestion analysis) session with ⟨_ | overview, opened⟩
  · rfl
  · simp only [askAll_append, askAll]
    rcases client.askAll ((chunker.chunkWithin chunker.budget analysis).map componentQuestion)
      opened with ⟨_ | middle, told⟩
    · rfl
    · dsimp only
      rcases client.ask (dependencyQuestion analysis) told with ⟨_ | dependencies, closed⟩
      · rfl
      · dsimp only
        rw [← List.cons_append, ofAnswers_append]

/-- Nothing stops the writer in the forms of answers that a survey asks for. -/
theorem formError?_survey {levels : Nat} (roomy : 10 ≤ levels) :
    formError? levels (some Request.overviewFormat) = none ∧
      formError? levels (some Request.dependencyFormat) = none := by
  obtain ⟨more, rfl⟩ := Nat.exists_eq_add_of_le' roomy
  constructor
  · simp [formError?, Request.overviewFormat, Request.objectSchema, Request.listSchema,
      Request.textSchema, Json.isTruthy, Json.writeError?]
  · simp [formError?, Request.dependencyFormat, Request.objectSchema, Request.listSchema,
      Request.textSchema, Request.nodeTypes, Json.isTruthy, Json.writeError?]

/-- A question about an analysis whose lines can be sent is put by the conversation about its
record, if the form of its answer can be written. -/
theorem sends_inquiry {question : Question} (sendable : analysis.Sendable)
    (about : question.subject = analysis.toJson)
    (form : formError? client.limits.writing.levels question.format = none) :
    client.Sends (inquiry client.moment question analysis) := by
  have made := Request.context_toJson client.limits.copying.roomy client.moment analysis
  rw [← about] at made
  exact (client.exchange?_eq_ok_iff question).mpr ⟨_, made,
    (Request.writeError?_analysisRecord_eq_none_iff client.limits.writing.roomy _ _).mpr sendable,
    form, rfl⟩

/-- The questions of a survey of an analysis whose lines can be sent are put by their
conversations. -/
theorem sends_inquiries (sendable : analysis.Sendable) :
    ∀ inquiry ∈ inquiries chunker analysis client.moment, client.Sends inquiry := by
  obtain ⟨overview, dependencies⟩ := formError?_survey client.limits.writing.roomy
  simp only [inquiries, List.forall_mem_append, List.forall_mem_cons, List.forall_mem_map]
  exact ⟨⟨sends_inquiry sendable rfl overview, fun chunk member =>
    sends_inquiry (chunker.chunkWithin_sendable sendable chunk member) rfl rfl⟩,
    sends_inquiry sendable rfl dependencies, List.forall_mem_nil _⟩

/-- A survey whose questions are all answered has had a conversation about each. -/
theorem survey_accepted (session : Session σ) (sendable : analysis.Sendable)
    {overview dependencies : Json} {middle : List Json}
    (accepted : client.verdicts session.state (inquiries chunker analysis client.moment) =
      (overview :: middle ++ [dependencies]).map .ok) :
    client.survey chunker analysis session =
      (.ok ⟨overview, middle.flatMap componentsOf, dependencies⟩,
        session.after client.backend
          ((inquiries chunker analysis client.moment).map Inquiry.exchange)) := by
  rw [survey_eq, askAll_accepted session (sends_inquiries sendable) accepted]
  simp only [ofAnswers_append]

/-- A survey ends with the first question that has no answer, and has had no conversation after
it. -/
theorem survey_rejected (session : Session σ) (sendable : analysis.Sendable)
    {accepted : List Json} {error : QueryError} {rest : List (Except QueryError Json)}
    (stopped : client.verdicts session.state (inquiries chunker analysis client.moment) =
      accepted.map .ok ++ .error error :: rest) :
    client.survey chunker analysis session =
      (.error error, session.after client.backend
        (((inquiries chunker analysis client.moment).map Inquiry.exchange).take
          (accepted.length + 1))) := by
  rw [survey_eq, askAll_rejected session (sends_inquiries sendable) stopped]

/-- Nothing is asked about an analysis whose lines cannot be sent. -/
theorem survey_of_unsendable (session : Session σ) (unsendable : ¬analysis.Sendable) :
    ∃ error, client.survey chunker analysis session = (.error (.unwritten error), session) := by
  have made := Request.context_toJson client.limits.copying.roomy client.moment analysis
  rcases client.exchange?_of_context (overviewQuestion analysis) made with put | ⟨error, stopped⟩
  · obtain ⟨context, same, writable, _⟩ := (client.exchange?_eq_ok_iff _).mp put
    obtain rfl := Except.ok.inj (same.symm.trans made)
    exact absurd ((Request.writeError?_analysisRecord_eq_none_iff client.limits.writing.roomy
      _ _).mp writable) unsendable
  · refine ⟨error, ?_⟩
    rw [survey, ask, stopped]

/-- A survey that is made is of an analysis whose lines can be sent, and has had a conversation
about each of its questions. -/
theorem exchanges_of_survey (session : Session σ) {survey : Survey}
    (made : (client.survey chunker analysis session).1 = .ok survey) :
    analysis.Sendable ∧ (client.survey chunker analysis session).2.exchanges =
      session.exchanges ++ (inquiries chunker analysis client.moment).map Inquiry.exchange := by
  by_cases sendable : analysis.Sendable
  · refine ⟨sendable, ?_⟩
    rcases exists_answers_or_error (client.verdicts session.state
      (inquiries chunker analysis client.moment)) with
      ⟨answers, accepted⟩ | ⟨accepted, error, rest, stopped⟩
    · rw [survey_eq, askAll_accepted session (sends_inquiries sendable) accepted]
      rfl
    · rw [survey_rejected session sendable stopped] at made
      contradiction
  · obtain ⟨error, stopped⟩ := survey_of_unsendable session sendable
    rw [stopped] at made
    contradiction

end Client

/-- A conversation gives the instructions, and asks what is asked about the record of an
analysis. -/
def Exchange.Asks (moment : String) (asked : String × Analysis) (exchange : Exchange) : Prop :=
  exchange.system = Request.systemPrompt ∧
    SetsOff exchange.user asked.1 (Request.analysisRecord moment asked.2)

section

variable (moment : String) {chunker : Chunker} {analysis : Analysis}

/-- The conversation of a question about an analysis asks what the question does. -/
theorem asks_inquiry (question : Question) (sendable : analysis.Sendable) :
    Exchange.Asks moment (question.prompt, analysis)
      (inquiry moment question analysis).exchange :=
  ⟨rfl, userContent_setsOff_analysis _ question.format moment sendable⟩

/-- The conversations of a survey ask what it should, one after the other. -/
theorem asks_inquiries (sendable : analysis.Sendable) :
    List.Forall₂ (Exchange.Asks moment) (asked chunker analysis)
      ((inquiries chunker analysis moment).map Inquiry.exchange) := by
  have chunks : List.Forall₂ (Exchange.Asks moment)
      ((chunker.chunkWithin chunker.budget analysis).map (Request.componentPrompt, ·))
      ((chunker.chunkWithin chunker.budget analysis).map fun chunk =>
        (inquiry moment (componentQuestion chunk) chunk).exchange) := by
    rw [List.forall₂_map_left_iff, List.forall₂_map_right_iff, List.forall₂_same]
    exact fun chunk member => asks_inquiry moment (componentQuestion chunk)
      (chunker.chunkWithin_sendable sendable chunk member)
  simp only [asked, inquiries, List.map_append, List.map_cons, List.map_map, List.map_nil]
  exact List.rel_append (.cons (asks_inquiry moment (overviewQuestion analysis) sendable) chunks)
    (.cons (asks_inquiry moment (dependencyQuestion analysis) sendable) .nil)

end

end Dialogue

/-! ## Projects -/

/-- The root of a project is a directory that can be read. -/
def Project.Readable (system : FileSystem) (directory : String) : Prop :=
  ∃ place entries, root system directory = .ok place ∧ system.isDirectory place = .ok true ∧
    system.entries place = .ok entries

/-- A project without a directory that can be read is not listed. -/
theorem Project.exists_error_of_unreadable {system : FileSystem} {directory : String}
    (unreadable : ¬Readable system directory) :
    ∃ error, listing system directory = .error error := by
  unfold listing
  cases named : root system directory with
  | error error => exact ⟨error, rfl⟩
  | ok place =>
    simp only [Except.bind, FileSystem.files]
    rcases system.exists? place with _ | _ | _
    · exact ⟨_, rfl⟩
    · exact ⟨_, rfl⟩
    · rcases found : system.isDirectory place with _ | _ | _
      · exact ⟨_, rfl⟩
      · exact ⟨_, rfl⟩
      · cases listed : system.entries place with
        | error error => exact ⟨_, rfl⟩
        | ok entries => exact absurd ⟨place, entries, named, found, listed⟩ unreadable

/-- A project that cannot be analyzed is not documented, and no conversation is had about it. -/
theorem Service.explainCodebase_of_unreadable (service : Service) (moment : String)
    {system : FileSystem} {directory : String} (unreadable : ¬Project.Readable system directory)
    (session : Session Chat) :
    ∃ error, service.explainCodebase moment system directory session =
      (rootFailure error, session) := by
  obtain ⟨error, failed⟩ := Project.exists_error_of_unreadable unreadable
  have analyzed : service.analysis system directory = .error error :=
    Project.analyze_error_iff.mpr failed
  refine ⟨error, ?_⟩
  unfold explainCodebase
  rw [analyzed]

namespace Dialogue.Client

variable {σ : Type} (client : Client σ) (chunker : Chunker) (analysis : Analysis)
  (session : Session σ)

/-- A survey asks for an overview of the whole analysis, then about each chunk in order, then for
the dependencies in the whole analysis, if the lines that are sent can be written; each conversation
sets off what it is about. The survey is made of the answers if all are given; otherwise it fails as
the first question does that has none, and nothing is asked after that. Where the lines cannot be
written, and about a project without a directory that can be read, nothing is asked at all. -/
theorem survey_follows_replies :
    (analysis.Sendable → ∃ exchanges,
      exchanges = (inquiries chunker analysis client.moment).map Inquiry.exchange ∧
      List.Forall₂ (Exchange.Asks client.moment) (asked chunker analysis) exchanges ∧
      exchanges.length = (chunker.chunkWithin chunker.budget analysis).length + 2 ∧
      (∀ (overview : Json) (middle : List Json) (dependencies : Json),
        client.verdicts session.state (inquiries chunker analysis client.moment) =
            (overview :: middle ++ [dependencies]).map .ok →
          client.survey chunker analysis session =
            (.ok ⟨overview, middle.flatMap componentsOf, dependencies⟩,
              session.after client.backend exchanges)) ∧
      ∀ (accepted : List Json) (error : QueryError) (rest : List (Except QueryError Json)),
        client.verdicts session.state (inquiries chunker analysis client.moment) =
            accepted.map .ok ++ .error error :: rest →
          client.survey chunker analysis session =
            (.error error,
              session.after client.backend (exchanges.take (accepted.length + 1)))) ∧
    (¬analysis.Sendable →
      ∃ error, client.survey chunker analysis session = (.error (.unwritten error), session)) ∧
    ∀ (service : Service) (system : FileSystem) (directory : String) (chat : Session Chat),
      ¬Project.Readable system directory →
        ∃ error, service.explainCodebase client.moment system directory chat =
          (Service.rootFailure error, chat) := by
  refine ⟨fun sendable => ⟨_, rfl, asks_inquiries client.moment sendable, ?_,
    fun overview middle dependencies => survey_accepted session sendable,
    fun accepted error rest => survey_rejected session sendable⟩,
    survey_of_unsendable session,
    fun service system directory chat unreadable =>
      service.explainCodebase_of_unreadable client.moment unreadable chat⟩
  simp [inquiries]

/-- A chunker whose chunks have room for no entity. -/
def narrow : Chunker := ⟨.standard, fun _ => Chunk.Budget.standard.units + 1⟩

/-- A function and a class with three methods. -/
def mixedAnalysis : Analysis :=
  ⟨[Chunker.bareMethod "e"], [Chunker.methodsClass "C" ["f", "g", "h"]]⟩

/-- A reply with a list of one component. -/
def componentReply : String :=
  "\x7b\"components\": [\x7b\"type\": \"function\", \"name\": \"e\", \"description\": \"d\"\x7d]\x7d"

/-- The component in the reply with one. -/
def component : Json :=
  .object [("type", .string "function"), ("name", .string "e"), ("description", .string "d")]

/-- The analysis in the reply with one module. -/
def moduleAnalysis : Json :=
  .object [("modules", .array [.object [("name", .string "m"), ("description", .string "d")]])]

/-- The mixed analysis has a chunk of functions and one of classes. -/
theorem exists_inquiries_mixedAnalysis :
    ∃ functions classes, inquiries narrow mixedAnalysis scripted.moment =
      [inquiry scripted.moment (overviewQuestion mixedAnalysis) mixedAnalysis,
        inquiry scripted.moment (componentQuestion functions) functions,
        inquiry scripted.moment (componentQuestion classes) classes,
        inquiry scripted.moment (dependencyQuestion mixedAnalysis) mixedAnalysis] := by
  have count : (narrow.chunkWithin narrow.budget mixedAnalysis).length = 2 := by decide
  obtain ⟨functions, classes, chunks⟩ := List.length_eq_two.mp count
  exact ⟨functions, classes, by rw [inquiries, chunks]; rfl⟩

/-- Four replies for the mixed analysis. -/
def fourReplies : List String := ["\x7b\x7d", componentReply, moduleReply, "\x7b\x7d"]

/-- Three replies for the mixed analysis, of which the last has no object. -/
def threeReplies : List String := ["\x7b\x7d", componentReply, "no json here"]

/-- Any question for an answer in a form of its own is answered by an empty object. -/
theorem verdict_emptyObject :
    (overviewQuestion mixedAnalysis).verdict 10 (.ok (.string "\x7b\x7d")) = .ok (.object []) ∧
      (dependencyQuestion mixedAnalysis).verdict 10 (.ok (.string "\x7b\x7d")) =
        .ok (.object []) :=
  ⟨Question.verdict_of_answer (eq_ok_of_toOption (by decide +kernel)),
    Question.verdict_of_answer (eq_ok_of_toOption (by decide +kernel))⟩

/-- A question about a chunk is answered by the list of components in its reply. -/
theorem verdict_componentReply (chunk : Analysis) :
    (componentQuestion chunk).verdict 10 (.ok (.string componentReply)) =
      .ok (.array [component]) := by
  have answered : Reply.answer 10 none (.string componentReply) = .ok (.array [component]) :=
    eq_ok_of_toOption (by decide +kernel)
  exact Question.verdict_of_answer answered

/-- A question about a chunk is answered by the analysis in its reply. -/
theorem verdict_moduleReply (chunk : Analysis) :
    (componentQuestion chunk).verdict 10 (.ok (.string moduleReply)) = .ok moduleAnalysis := by
  have answered : Reply.answer 10 none (.string moduleReply) = .ok moduleAnalysis :=
    eq_ok_of_toOption (by decide +kernel)
  exact Question.verdict_of_answer answered

/-- Four replies answer the questions about the mixed analysis. -/
theorem verdicts_fourReplies :
    scripted.verdicts fourReplies (inquiries narrow mixedAnalysis scripted.moment) =
      (Json.object [] :: [.array [component], moduleAnalysis] ++ [Json.object []]).map .ok := by
  obtain ⟨functions, classes, asked⟩ := exists_inquiries_mixedAnalysis
  rw [asked, verdicts_scripted]
  simp [fourReplies, inquiry, verdict_emptyObject, verdict_componentReply, verdict_moduleReply]

/-- The last of three replies answers no question about the mixed analysis. -/
theorem verdicts_threeReplies :
    scripted.verdicts threeReplies (inquiries narrow mixedAnalysis scripted.moment) =
      [Json.object [], .array [component]].map .ok ++
        .error (.reply (.noObject "no json here")) :: [.error (.backend .noMoreReplies)] := by
  obtain ⟨functions, classes, asked⟩ := exists_inquiries_mixedAnalysis
  have missing (chunk : Analysis) : (componentQuestion chunk).verdict 10
      (.ok (.string "no json here")) = .error (.reply (.noObject "no json here")) :=
    Question.verdict_of_fault rfl
  rw [asked, verdicts_scripted]
  simp [threeReplies, inquiry, verdict_emptyObject, verdict_componentReply, missing]

/-- The lines of the mixed analysis can be sent. -/
theorem mixedAnalysis_sendable : mixedAnalysis.Sendable :=
  ⟨List.forall_mem_singleton.mpr ⟨by decide, by decide⟩,
    List.forall_mem_singleton.mpr ⟨by decide, by decide⟩⟩

/-- The mixed analysis is documented by four replies, of which a list is taken item by item; a
third reply without an object ends the survey after three conversations. Nothing is asked about a
project that is not there. -/
theorem survey_follows_fourReplies :
    mixedAnalysis.Sendable ∧
    (scripted.verdicts fourReplies (inquiries narrow mixedAnalysis scripted.moment) =
        (Json.object [] :: [.array [component], moduleAnalysis] ++ [Json.object []]).map .ok ∧
      (scripted.survey narrow mixedAnalysis ⟨[], fourReplies⟩).1 =
        .ok ⟨.object [], [component, moduleAnalysis], .object []⟩ ∧
      (scripted.survey narrow mixedAnalysis ⟨[], fourReplies⟩).2.exchanges.length = 4 ∧
      List.Forall₂ (Exchange.Asks scripted.moment) (asked narrow mixedAnalysis)
        (scripted.survey narrow mixedAnalysis ⟨[], fourReplies⟩).2.exchanges) ∧
    (scripted.verdicts threeReplies (inquiries narrow mixedAnalysis scripted.moment) =
        [Json.object [], .array [component]].map .ok ++
          .error (.reply (.noObject "no json here")) :: [.error (.backend .noMoreReplies)] ∧
      (scripted.survey narrow mixedAnalysis ⟨[], threeReplies⟩).1 =
        .error (.reply (.noObject "no json here")) ∧
      (scripted.survey narrow mixedAnalysis ⟨[], threeReplies⟩).2.exchanges.length = 3) ∧
    ¬Project.Readable (.plain (.directory [])) "p" ∧
      ∀ (service : Service) (chat : Session Chat), ∃ error,
        service.explainCodebase scripted.moment (.plain (.directory [])) "p" chat =
          (Service.rootFailure error, chat) := by
  have unreadable : ¬Project.Readable (.plain (.directory [])) "p" := by
    rintro ⟨place, entries, named, found, _⟩
    obtain rfl := Except.ok.inj named
    contradiction
  obtain ⟨asks, _, refuse⟩ := survey_follows_replies scripted narrow mixedAnalysis ⟨[], fourReplies⟩
  obtain ⟨_, rfl, set, count, accept, _⟩ := asks mixedAnalysis_sendable
  obtain ⟨stops, _⟩ := survey_follows_replies scripted narrow mixedAnalysis ⟨[], threeReplies⟩
  obtain ⟨_, rfl, _, _, _, reject⟩ := stops mixedAnalysis_sendable
  refine ⟨mixedAnalysis_sendable, ⟨verdicts_fourReplies, ?_, ?_, ?_⟩,
    ⟨verdicts_threeReplies, ?_, ?_⟩, unreadable,
    fun service chat => refuse service _ _ chat unreadable⟩
  · rw [accept _ _ _ verdicts_fourReplies]
    rfl
  · rw [accept _ _ _ verdicts_fourReplies]
    exact count
  · rw [accept _ _ _ verdicts_fourReplies]
    exact set
  · rw [reject _ _ _ verdicts_threeReplies]
  · rw [reject _ _ _ verdicts_threeReplies]
    exact (List.length_take_of_le (by rw [count]; decide))

end Dialogue.Client

end CodeAtlas
