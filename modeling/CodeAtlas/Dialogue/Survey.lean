import CodeAtlas.Chunk.Chunker
import CodeAtlas.Dialogue.Question

/-!
# Surveys

A survey documents a whole analysis: first an overview, then the components of each chunk in
order, last the dependencies. It ends with the first question that has no answer.
-/
namespace CodeAtlas.Dialogue

/-- The documentation of an analysis. -/
structure Survey where
  /-- The overview. -/
  overview : Json
  /-- The components of all chunks, in order. -/
  components : List Json
  /-- The dependencies. -/
  dependencies : Json

namespace Survey

/-- The JSON form. -/
def toJson (survey : Survey) : Json :=
  .object [("overview", survey.overview), ("components", .array survey.components),
    ("dependencies", survey.dependencies)]

/-- The components of an answer: the items of a list, or the answer itself. -/
def componentsOf : Json → List Json
  | .array items => items
  | answer => [answer]

/-- The question for an overview. -/
def overviewQuestion (analysis : Analysis) : Question :=
  ⟨Request.overviewPrompt, analysis.toJson, some Request.overviewFormat⟩

/-- The question about a chunk. -/
def componentQuestion (chunk : Analysis) : Question :=
  ⟨Request.componentPrompt, chunk.toJson, none⟩

/-- The question for the dependencies. -/
def dependencyQuestion (analysis : Analysis) : Question :=
  ⟨Request.dependencyPrompt, analysis.toJson, some Request.dependencyFormat⟩

end Survey

open Survey

variable {σ : Type}

/-- Document an analysis with a backend. -/
def Client.survey (client : Client σ) (chunker : Chunker) (analysis : Analysis)
    (session : Session σ) : Except QueryError Survey × Session σ :=
  match client.ask (overviewQuestion analysis) session with
  | (.error error, session) => (.error error, session)
  | (.ok overview, session) =>
    let chunks := chunker.chunkWithin chunker.budget analysis
    match client.askAll (chunks.map componentQuestion) session with
    | (.error error, session) => (.error error, session)
    | (.ok answers, session) =>
      match client.ask (dependencyQuestion analysis) session with
      | (.error error, session) => (.error error, session)
      | (.ok dependencies, session) =>
        (.ok ⟨overview, answers.flatMap componentsOf, dependencies⟩, session)

end CodeAtlas.Dialogue
