import CodeAtlas.Json.Basic

/-!
# Backends

A backend turns a conversation of two messages into a reply. What it replies may depend on its
state. `Chat` is the backend that talks to a model server: every exchange with the server is
recorded, and every value that the server may return is looked at for the content of its message.
-/
namespace CodeAtlas.Dialogue

/-- The two messages of a conversation. -/
structure Exchange where
  /-- Instructions. -/
  system : String
  /-- The question with its context. -/
  user : String
  deriving DecidableEq, Repr

/-- Why a backend has no reply. -/
inductive BackendError where
  /-- The request failed. -/
  | requestFailed (reason : String)
  /-- The reply is empty. -/
  | emptyReply
  /-- There is no further reply. -/
  | noMoreReplies
  /-- The reply lacks a field. -/
  | missingField (field : String)
  /-- A part of the reply is no object. -/
  | notAnObject
  deriving DecidableEq, Repr

/-- What a backend error says. -/
def BackendError.message : BackendError → String
  | .requestFailed reason => "Ollama request failed: " ++ reason
  | .emptyReply => "No response content received from Ollama"
  | .noMoreReplies => "No more replies"
  | .missingField field => field
  | .notAnObject => "Reply is not an object"

/-- A source of replies with a state. -/
structure Backend (σ : Type) where
  /-- The reply to a conversation, and the state after it. -/
  complete : Exchange → σ → Except BackendError Json × σ

/-- The backend that gives prepared replies one after the other. -/
def Backend.scripted : Backend (List String) where
  complete _
    | [] => (.error .noMoreReplies, [])
    | reply :: replies => (.ok (.string reply), replies)

/-- What a model server does with a request. -/
inductive ServerReply where
  /-- It returns a value. -/
  | value (json : Json)
  /-- The request fails. -/
  | failure (reason : String)
  deriving Repr

/-- The settings of a model server. -/
structure Model where
  /-- Name of the model. -/
  name : String
  /-- Address of the server. -/
  address : String
  /-- Temperature of the sampling, as it is sent. -/
  temperature : Json
  /-- Seed of the sampling. -/
  seed : Option Int
  deriving Repr

namespace Model

/-- The options of a request. -/
def options (model : Model) : Json :=
  .object <| ("temperature", model.temperature) ::
    match model.seed with
    | some seed => [("seed", .int seed)]
    | none => []

/-- A message of a role. -/
def message (role content : String) : Json :=
  .object [("role", .string role), ("content", .string content)]

/-- The request that is sent for a conversation. -/
def request (model : Model) (exchange : Exchange) : Json :=
  .object [("host", .string model.address), ("model", .string model.name),
    ("messages", .array [message "system" exchange.system, message "user" exchange.user]),
    ("format", .string "json"), ("options", model.options)]

/-- The field of a value that the server returned. -/
def part (value : Json) (field : String) : Except BackendError Json :=
  match value with
  | .object fields =>
    match Json.lookup fields field with
    | some part => .ok part
    | none => .error (.missingField field)
  | _ => .error .notAnObject

/-- The content of a value that the server returned. -/
def content (value : Json) : Except BackendError Json := do
  let message ← part value "message"
  let content ← part message "content"
  if content.isTruthy then return content else throw .emptyReply

/-- What a request gives. -/
def outcome : ServerReply → Except BackendError Json
  | .value json => content json
  | .failure reason => .error (.requestFailed reason)

end Model

/-- A conversation with a model server: what it will do with the next requests, and the requests
that were sent. -/
structure Chat where
  /-- What the server will do. -/
  replies : List ServerReply
  /-- The requests that were sent, in order. -/
  sent : List Json

namespace Chat

/-- What the server does when nothing is left. -/
def exhausted : ServerReply := .failure "no more replies"

/-- The backend that talks to a model server. -/
def backend (model : Model) : Backend Chat where
  complete exchange chat :=
    (Model.outcome (chat.replies.head?.getD exhausted),
      ⟨chat.replies.tail, chat.sent ++ [model.request exchange]⟩)

end Chat

end CodeAtlas.Dialogue
