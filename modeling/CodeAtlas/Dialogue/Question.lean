import CodeAtlas.Depth
import CodeAtlas.Dialogue.Backend
import CodeAtlas.Json.Printer
import CodeAtlas.Reply.Answer
import CodeAtlas.Request.Context
import CodeAtlas.Request.Prompt

/-!
# Questions

A question is asked about a subject, and may ask for an answer in a form of its own. `ask` puts it
to a backend once and gives the answer in the reply; a question that cannot be put into a
conversation is never asked. A session keeps the conversations of its questions in order.
-/
namespace CodeAtlas.Dialogue

/-- A question. -/
structure Question where
  /-- What is asked. -/
  prompt : String
  /-- What it is asked about. -/
  subject : Json
  /-- The schema of the answer. -/
  format : Option Json

/-- Why a question has no answer. -/
inductive QueryError where
  /-- The subject has no context. -/
  | context (fault : Request.ContextFault)
  /-- The conversation cannot be written. -/
  | unwritten (error : Json.WriteError)
  /-- The backend has no reply. -/
  | backend (error : BackendError)
  /-- The reply has no answer. -/
  | reply (fault : Reply.Fault)
  deriving Repr

/-- What a query error says. -/
def QueryError.message : QueryError → String
  | .context _ => "The subject cannot be made into a context"
  | .unwritten _ => "The question cannot be written"
  | .backend error => error.message
  | .reply fault => fault.message

/-- What asks for an answer in a form of its own. -/
def formRequest (format : Json) : String :=
  "\n\nRespond with a JSON object matching this schema instead:\n" ++ format.text .spaced

/-- What is sent for a question with its context. -/
def userContent (prompt : String) (context : Json) (format : Option Json) : String :=
  prompt ++ "\n\nContext:\n" ++ context.text .indented ++ "\n\n" ++ Request.systemPrompt ++
    match format with
    | some format => if format.isTruthy then formRequest format else ""
    | none => ""

/-- What stops the writer first in a form of an answer, if one is asked for. -/
def formError? (levels : Nat) : Option Json → Option Json.WriteError
  | some format => if format.isTruthy then format.writeError? levels else none
  | none => none

/-- The conversation of a question with its context. -/
def Question.exchange (question : Question) (context : Json) : Exchange :=
  ⟨Request.systemPrompt, userContent question.prompt context question.format⟩

/-- What happens while questions are asked: the conversations so far and the state of the
backend. -/
structure Session (σ : Type) where
  /-- The conversations, in order. -/
  exchanges : List Exchange
  /-- The state of the backend. -/
  state : σ

/-- A client that asks a backend at a moment. -/
structure Client (σ : Type) where
  /-- The backend. -/
  backend : Backend σ
  /-- The moment that contexts are made at. -/
  moment : String
  /-- How deeply values may be nested. -/
  limits : Limits

namespace Client

variable {σ : Type}

/-- The context that is sent for a question. -/
def context (client : Client σ) (question : Question) : Except Request.ContextFault Json :=
  Request.context client.limits.copying.levels client.moment question.subject

/-- The conversation of a question: first its context is written, then the form of its answer. -/
def exchange? (client : Client σ) (question : Question) : Except QueryError Exchange :=
  match client.context question with
  | .error fault => .error (.context fault)
  | .ok context =>
    let levels := client.limits.writing.levels
    match (context.writeError? levels).or (formError? levels question.format) with
    | some error => .error (.unwritten error)
    | none => .ok (question.exchange context)

/-- Ask a question. -/
def ask (client : Client σ) (question : Question) (session : Session σ) :
    Except QueryError Json × Session σ :=
  match client.exchange? question with
  | .error error => (.error error, session)
  | .ok exchange =>
    let (reply, state) := client.backend.complete exchange session.state
    let session : Session σ := ⟨session.exchanges ++ [exchange], state⟩
    match reply with
    | .error error => (.error (.backend error), session)
    | .ok reply =>
      ((Reply.answer client.limits.reading.levels question.format reply).mapError .reply, session)

/-- Ask questions in order, up to the first that has no answer. -/
def askAll (client : Client σ) : List Question → Session σ →
    Except QueryError (List Json) × Session σ
  | [], session => (.ok [], session)
  | question :: questions, session =>
    match client.ask question session with
    | (.error error, session) => (.error error, session)
    | (.ok answer, session) =>
      match client.askAll questions session with
      | (.error error, session) => (.error error, session)
      | (.ok answers, session) => (.ok (answer :: answers), session)

end Client

end CodeAtlas.Dialogue
