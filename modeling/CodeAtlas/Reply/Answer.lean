import CodeAtlas.Json.Reader
import CodeAtlas.Reply.Contract

/-!
# The answer in a reply

A reply is a text with an object in it. The object is what stands from the first opening brace to
the last closing one; whatever stands around it is ignored. The answer is the object itself if an
answer in a form of its own was asked for, and otherwise its analysis or its components.
-/
namespace CodeAtlas.Reply

/-- Why a reply has no answer. -/
inductive Fault where
  /-- The reply is no text. -/
  | notText
  /-- No object stands in the text. -/
  | noObject (text : String)
  /-- What should be an object in the text is not JSON. -/
  | notJson (text : String) (excerpt : List Char) (fault : Json.Fault) (place : Nat)
  /-- What should be an object is too large to be read. -/
  | tooLarge (excerpt : List Char) (error : Json.ReadError)
  /-- The object is not as it must be. -/
  | rejected (rejection : Rejection)
  deriving Repr

/-- What a fault says. -/
def Fault.message : Fault → String
  | .notText => "Reply is not a text"
  | .noObject _ => "Response contains no JSON object"
  | .notJson _ excerpt fault place =>
    "Failed to parse response as JSON: " ++
      Json.ReadError.message excerpt (.syntaxFault fault place)
  | .tooLarge excerpt error => error.message excerpt
  | .rejected rejection => rejection.violation.message

/-- The characters from the first opening brace to the last closing one. -/
def excerpt? (text : List Char) : Option (List Char) :=
  let opened := text.dropWhile (· ≠ '\x7b')
  let closed := (opened.reverse.dropWhile (· ≠ '\x7d')).reverse
  if closed.isEmpty then none else some closed

/-- The object in a text; so many levels may be nested in it. -/
def object (levels : Nat) (text : String) : Except Fault Json :=
  match excerpt? text.toList with
  | none => .error (.noObject text)
  | some excerpt =>
    match Json.read levels excerpt with
    | .ok value => .ok value
    | .error (.syntaxFault fault place) => .error (.notJson text excerpt fault place)
    | .error error => .error (.tooLarge excerpt error)

/-- Check a reply against the contract. -/
def check (format : Option Json) (reply : Json) : Except Fault Unit :=
  match rejection? format reply with
  | some rejection => .error (.rejected rejection)
  | none => .ok ()

/-- The part of a checked reply that is the answer. -/
def select (format : Option Json) (reply : Json) : Json :=
  if asksForm format then reply
  else
    let analysis := (reply.get? "analysis").getD .null
    if analysis.isTruthy then analysis else (reply.get? "components").getD .null

/-- The answer in a reply; so many levels may be nested in it. -/
def answer (levels : Nat) (format : Option Json) (reply : Json) : Except Fault Json :=
  match reply with
  | .string text => do
    let value ← object levels text
    check format value
    return select format value
  | _ => .error .notText

end CodeAtlas.Reply
