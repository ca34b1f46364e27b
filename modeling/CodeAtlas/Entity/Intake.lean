import CodeAtlas.Entity.Basic
import CodeAtlas.Intake.Read

/-!
# Taking in entities

Entities from JSON values. Fields may be sent in mixed case or in snake case; those with a usual
value may be missing, and fields that an entity does not have are ignored.
-/
namespace CodeAtlas

open Intake Wording

variable {τ : Type} [DecidableEq τ] [Wording τ]

/-- Take in a place. -/
def Location.ofJson (json : Json τ) : Checked (Location τ) := do
  let fields ← record json
  let (file, startLine, endLine) ←
    (required fields (.single "file") text).and <|
      (required fields ⟨"startLine", "start_line"⟩ lineNumber).and <|
        required fields ⟨"endLine", "end_line"⟩ lineNumber
  if endLine < startLine then Checked.fail (.refused (.reversedLines endLine startLine))
  else return ⟨file, startLine, endLine⟩

/-- Take in a parameter. -/
def Parameter.ofJson (json : Json τ) : Checked (Parameter τ) := do
  let fields ← record json
  let (name, type) ←
    (required fields (.single "name") text).and <|
      optional fields (.single "type") (ofString unresolvedType) text
  return ⟨name, type⟩

/-- Take in a function. -/
def Function.ofJson (json : Json τ) : Checked (Function τ) := do
  let fields ← record json
  let (name, parameters, returnType, body, documentation, location) ←
    (required fields (.single "name") nonEmptyText).and <|
      (optional fields (.single "parameters") [] (list Parameter.ofJson)).and <|
        (optional fields ⟨"returnType", "return_type"⟩ (ofString unresolvedType) text).and <|
          (optional fields (.single "body") none (nullable text)).and <|
            (optional fields (.single "documentation") (ofString "") text).and <|
              required fields (.single "location") Location.ofJson
  return ⟨name, parameters, returnType, body, documentation, location⟩

/-- Take in a property. -/
def Property.ofJson (json : Json τ) : Checked (Property τ) := do
  let fields ← record json
  let (name, type, documentation) ←
    (required fields (.single "name") text).and <|
      (optional fields (.single "type") (ofString unresolvedType) text).and <|
        optional fields (.single "documentation") (ofString "") text
  return ⟨name, type, documentation⟩

/-- Take in a class. -/
def Class.ofJson (json : Json τ) : Checked (Class τ) := do
  let fields ← record json
  let (name, methods, properties, documentation, location, note) ←
    (required fields (.single "name") nonEmptyText).and <|
      (optional fields (.single "methods") [] (list Function.ofJson)).and <|
        (optional fields (.single "properties") [] (list Property.ofJson)).and <|
          (optional fields (.single "documentation") (ofString "") text).and <|
            (required fields (.single "location") Location.ofJson).and <|
              optional fields (.single "note") none (nullable text)
  return ⟨name, methods, properties, documentation, location, note⟩

/-- Take in an analysis. -/
def Analysis.ofJson (json : Json τ) : Checked (Analysis τ) := do
  let fields ← record json
  let (functions, classes) ←
    (optional fields (.single "functions") [] (list Function.ofJson)).and <|
      optional fields (.single "classes") [] (list Class.ofJson)
  return ⟨functions, classes⟩

/-- Take in a failure. -/
def FileFailure.ofJson (json : Json τ) : Checked (FileFailure τ) := do
  let fields ← record json
  let (file, error) ←
    (required fields (.single "file") text).and <| required fields (.single "error") text
  return ⟨file, error⟩

/-- Take in the analysis of a project. -/
def ProjectAnalysis.ofJson (json : Json τ) : Checked (ProjectAnalysis τ) := do
  let fields ← record json
  let (result, failures, filesScanned, filesAnalyzed) ←
    (optional fields (.single "result") .empty Analysis.ofJson).and <|
      (optional fields (.single "failures") [] (list FileFailure.ofJson)).and <|
        (optional fields ⟨"filesScanned", "files_scanned"⟩ 0 integer).and <|
          optional fields ⟨"filesAnalyzed", "files_analyzed"⟩ 0 integer
  return ⟨result, failures, filesScanned, filesAnalyzed⟩

end CodeAtlas
