import CodeAtlas.Entity.Basic
import CodeAtlas.Json.Printer

/-!
# Entities as JSON

The form in which entities leave the program, with texts of the type that theirs have. Names of
fields are in mixed case; a body or a note that is missing has no field. The compact text of this
form is what sizes are estimated from.
-/
namespace CodeAtlas

open Wording

variable {τ : Type} [Wording τ]

namespace Json

/-- A field that is left out if its value is missing. -/
def optionalField (name : String) : Option τ → List (τ × Json τ)
  | some value => [(ofString name, .string value)]
  | none => []

end Json

namespace Location

/-- The JSON form. -/
def toJson (location : Location τ) : Json τ :=
  .object [(ofString "file", .string location.file),
    (ofString "startLine", .int location.startLine), (ofString "endLine", .int location.endLine)]

end Location

namespace Parameter

/-- The JSON form. -/
def toJson (parameter : Parameter τ) : Json τ :=
  .object [(ofString "name", .string parameter.name), (ofString "type", .string parameter.type)]

end Parameter

namespace Function

/-- The JSON form. -/
def toJson (function : Function τ) : Json τ :=
  .object <|
    [(ofString "name", .string function.name),
      (ofString "parameters", .array (function.parameters.map Parameter.toJson)),
      (ofString "returnType", .string function.returnType)] ++
    Json.optionalField "body" function.body ++
    [(ofString "documentation", .string function.documentation),
      (ofString "location", function.location.toJson)]

end Function

namespace Property

/-- The JSON form. -/
def toJson (property : Property τ) : Json τ :=
  .object [(ofString "name", .string property.name), (ofString "type", .string property.type),
    (ofString "documentation", .string property.documentation)]

end Property

namespace Class

/-- The JSON form. -/
def toJson (cls : Class τ) : Json τ :=
  .object <|
    [(ofString "name", .string cls.name),
      (ofString "methods", .array (cls.methods.map Function.toJson)),
      (ofString "properties", .array (cls.properties.map Property.toJson)),
      (ofString "documentation", .string cls.documentation),
      (ofString "location", cls.location.toJson)] ++
    Json.optionalField "note" cls.note

end Class

namespace Analysis

/-- The JSON form. -/
def toJson (analysis : Analysis τ) : Json τ :=
  .object [(ofString "functions", .array (analysis.functions.map Function.toJson)),
    (ofString "classes", .array (analysis.classes.map Class.toJson))]

end Analysis

namespace FileFailure

/-- The JSON form. -/
def toJson (failure : FileFailure τ) : Json τ :=
  .object [(ofString "file", .string failure.file), (ofString "error", .string failure.error)]

end FileFailure

namespace ProjectAnalysis

/-- The JSON form. -/
def toJson (project : ProjectAnalysis τ) : Json τ :=
  .object [(ofString "result", project.result.toJson),
    (ofString "failures", .array (project.failures.map FileFailure.toJson)),
    (ofString "filesScanned", .int project.filesScanned),
    (ofString "filesAnalyzed", .int project.filesAnalyzed)]

end ProjectAnalysis

end CodeAtlas
