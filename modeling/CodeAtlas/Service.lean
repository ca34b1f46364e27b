import CodeAtlas.Dialogue.Survey
import CodeAtlas.Entity.Json
import CodeAtlas.Project
import CodeAtlas.Settings.Basic

/-!
# The service

The service is made from settings and offers four tools: the analysis of a project, the analysis
of a piece of source, the chunks of a project, and the documentation of a project by a model. A
tool reports its usual failures to the caller as results; all others escape.
-/
namespace CodeAtlas

open Dialogue

/-- The parts of the service that its settings decide. -/
structure Service where
  /-- The settings. -/
  settings : Settings
  /-- How deeply things may be nested. -/
  limits : Limits
  /-- The parsers. -/
  registry : Registry
  /-- How many files are parsed at once. -/
  workers : Workers
  /-- How analyses are cut into chunks. -/
  chunker : Chunker
  /-- The model server. -/
  model : Model

namespace Service

/-- Why the service cannot start with settings. -/
inductive StartError where
  /-- The level of reports is unknown. -/
  | level (fault : Reports.Fault)
  /-- There are no workers of the number. -/
  | workers (refusal : Workers.Refusal)
  /-- There is no budget of the size. -/
  | chunkSize (refusal : Chunk.Budget.Refusal)
  deriving DecidableEq, Repr

/-- The service that is made from settings. -/
def start (limits : Limits) (settings : Settings) : Except StartError Service := do
  let _ ← (Reports.severity settings.level.name).mapError .level
  let workers ← (Workers.ofInt settings.maxConcurrency).mapError .workers
  let budget ← (Chunk.Budget.ofInt settings.maxChunkSize).mapError .chunkSize
  return {
    settings
    limits
    registry := .standard limits
    workers
    chunker := ⟨budget, Chunk.tokens⟩
    model := ⟨settings.model, settings.address, .float settings.temperature, settings.seed⟩ }

/-- Why the service does not launch. -/
inductive LaunchError where
  /-- There are no settings. -/
  | settings (fault : Settings.Fault)
  /-- The service cannot start with the settings. -/
  | start (error : StartError)
  deriving DecidableEq, Repr

/-- The service that is made from the sources of settings. -/
def launch (limits : Limits) (sources : Settings.Sources) : Except LaunchError Service := do
  let settings ← (Settings.ofSources sources).mapError .settings
  (start limits settings).mapError .start

/-- The client of the model server that makes contexts at a moment. -/
def client (service : Service) (moment : String) : Client Chat :=
  ⟨Chat.backend service.model, moment, service.limits⟩

/-! ## Tools -/

/-- A failure of a tool that is not reported as a result. -/
inductive ToolError where
  /-- The root of the project cannot be looked at. -/
  | root (error : FileSystem.RootError)
  /-- A question has no answer. -/
  | query (error : QueryError)
  deriving Repr

/-- A result. -/
def success (data : Json) : Json := .object [("success", .bool true), ("data", data)]

/-- A failure that is reported as a result. -/
def failure (message : String) : Json :=
  .object [("success", .bool false), ("error", .string message)]

/-- A failure at the root of a project; what is wrong with the root itself is reported. -/
def rootFailure (error : FileSystem.RootError) : Except ToolError Json :=
  match error with
  | .missing _ | .notADirectory _ | .unreadable _ _ => .ok (failure error.message)
  | .unknownHome | .access _ | .tooDeep => .error (.root error)

/-- A failure at the root of a project that is to be cut into chunks; a null character is reported
like a bad number of units. -/
def chunkRootFailure (error : FileSystem.RootError) : Except ToolError Json :=
  match error with
  | .access ⟨.nullCharacter, _⟩ => .ok (failure error.message)
  | _ => rootFailure error

/-- Whether a question has no answer because of the model or its reply. -/
def isReported : QueryError → Bool
  | .backend (.requestFailed _) | .backend .emptyReply | .backend .noMoreReplies => true
  | .reply (.noObject _) | .reply (.notJson ..) | .reply (.rejected _) => true
  | _ => false

/-- The failure of a question. -/
def queryFailure (error : QueryError) : Except ToolError Json :=
  if isReported error then .ok (failure error.message) else .error (.query error)

/-- The analysis of the project in a directory. -/
def analysis (service : Service) (system : FileSystem) (directory : String) :
    Except FileSystem.RootError ProjectAnalysis :=
  (Project.analyze service.registry system directory).1

/-- Analyze the project in a directory. -/
def analyzeProject (service : Service) (system : FileSystem) (directory : String) :
    Except ToolError Json :=
  match service.analysis system directory with
  | .error error => rootFailure error
  | .ok analysis => .ok (success analysis.toJson)

/-- Analyze a piece of source as if it stood at a path. -/
def analyzeCode (service : Service) (code path : String) : Json :=
  match (service.registry.select path).1.bind (·.sources) with
  | none => failure ("Unsupported file type: " ++ path)
  | some parser =>
    match parser.parse code.toUTF8 path with
    | .error error => failure error.message
    | .ok analysis => success analysis.toJson

/-- The result for chunks. -/
def chunksJson (chunker : Chunker) (chunks : List Analysis) : Json :=
  .object [("count", .int chunks.length),
    ("sizes", .array (chunks.map fun chunk => .int (chunker.payloadSize chunk))),
    ("chunks", .array (chunks.map Analysis.toJson))]

/-- Cut the analysis of the project in a directory into chunks. -/
def chunkAnalysis (service : Service) (system : FileSystem) (directory : String)
    (units : Option Int) : Except ToolError Json :=
  match service.analysis system directory with
  | .error error => chunkRootFailure error
  | .ok analysis =>
    match service.chunker.chunk analysis.result units with
    | .error refusal => .ok (failure refusal.message)
    | .ok chunks => .ok (success (chunksJson service.chunker chunks))

/-- Document the project in a directory with the model. -/
def explainCodebase (service : Service) (moment : String) (system : FileSystem)
    (directory : String) (session : Session Chat) : Except ToolError Json × Session Chat :=
  match service.analysis system directory with
  | .error error => (rootFailure error, session)
  | .ok analysis =>
    match (service.client moment).survey service.chunker analysis.result session with
    | (.error error, session) => (queryFailure error, session)
    | (.ok survey, session) =>
      (.ok (success (.object [("codeOutput", analysis.result.toJson),
        ("aiAnalysis", survey.toJson)])), session)

end Service

end CodeAtlas
