import CodeAtlas.Intake.Read
import CodeAtlas.Settings.EnvFile
import CodeAtlas.Settings.Level

/-!
# Settings

Settings are given by the caller, by environment variables or by a file of such variables, in this
order of precedence. `Settings.ofSources` accepts only settings that the service can start with.
-/
namespace CodeAtlas

open Intake

/-- Settings of the service. -/
structure Settings where
  /-- How serious reports must be to be written. -/
  level : Level
  /-- The most estimated units of a chunk. -/
  maxChunkSize : Int
  /-- The most files parsed at once. -/
  maxConcurrency : Int
  /-- Address of the model server. -/
  address : String
  /-- Name of the model. -/
  model : String
  /-- Temperature of the sampling. -/
  temperature : Double
  /-- Seed of the sampling. -/
  seed : Option Int
  deriving DecidableEq, Repr

namespace Settings

/-- Settings where nothing is given. -/
def standard : Settings where
  level := .info
  maxChunkSize := 32000
  maxConcurrency := 1
  address := "http://localhost:11434"
  model := "llama3.1"
  temperature := Double.ofDecimal false 3 (-1)
  seed := some 123

/-- What the names of the variables of settings begin with. -/
def family : String := "CODE_EXPLAINER_"

/-- Where settings come from. -/
structure Sources where
  /-- Values that the caller gives by the names of the settings. -/
  given : List (String × Json)
  /-- Environment variables. -/
  environment : List (String × String)
  /-- The text of a file of environment variables. -/
  file : String

/-- The value of the last variable of a name in letters of any case. -/
def lookupLast? (among : EnvFile.Surroundings) (name : String) : Option String :=
  ((among.filter fun (other, _) => Text.toLower other == Text.toLower (family ++ name)).getLast?
    ).bind (·.2)

namespace Sources

/-- The environment variables. -/
def surroundings (sources : Sources) : EnvFile.Surroundings :=
  sources.environment.map fun (name, value) => (name, some value)

/-- The value that is given for a setting. -/
def find? (sources : Sources) (name : String) : Option Json :=
  match Json.lookup sources.given name with
  | some value => some value
  | none =>
    match lookupLast? sources.surroundings name with
    | some value => some (.string value)
    | none =>
      (lookupLast? (EnvFile.resolved sources.surroundings sources.file) name).map Json.string

end Sources

/-- A setting of a name. -/
def setting {α : Type} (sources : Sources) (name : String) (default : α)
    (read : Json → Checked α) : Checked α :=
  match sources.find? name with
  | some value => (read value).within (.field name)
  | none => .ok default

/-- A level. -/
def readLevel (text : String) : Checked Level :=
  match Level.ofText? text with
  | some level => .ok level
  | none => Checked.fail (.refused (.unknownLevel text))

/-- An integer that is at least one. -/
def readPositive (json : Json) : Checked Int := do
  let value ← integer json
  if value < 1 then Checked.fail (.refused (.notPositive value)) else return value

/-- Why there are no settings. -/
inductive Fault where
  /-- The level is no text. -/
  | levelNotText
  /-- Values are refused. -/
  | invalid (findings : List Finding)
  deriving DecidableEq, Repr

/-- The level from its source; what is no text is refused at once. -/
def levelOf (sources : Sources) : Except Fault (Checked Level) :=
  match sources.find? "log_level" with
  | none => .ok (.ok standard.level)
  | some (.string text) => .ok ((readLevel text).within (.field "log_level"))
  | some _ => .error .levelNotText

/-- The settings from their sources. -/
def ofSources (sources : Sources) : Except Fault Settings := do
  let level ← levelOf sources
  let read : Checked Settings := do
    let (level, maxChunkSize, maxConcurrency, address, model, temperature, seed) ←
      level.and <|
        (setting sources "max_chunk_size" standard.maxChunkSize readPositive).and <|
          (setting sources "max_concurrency" standard.maxConcurrency readPositive).and <|
            (setting sources "ollama_base_url" standard.address text).and <|
              (setting sources "ollama_model" standard.model text).and <|
                (setting sources "temperature" standard.temperature double).and <|
                  setting sources "seed" standard.seed (nullable integer)
    return ⟨level, maxChunkSize, maxConcurrency, address, model, temperature, seed⟩
  read.mapError .invalid

/-- The JSON form. -/
def toJson (settings : Settings) : Json :=
  .object [("log_level", .string settings.level.name),
    ("max_chunk_size", .int settings.maxChunkSize),
    ("max_concurrency", .int settings.maxConcurrency),
    ("ollama_base_url", .string settings.address), ("ollama_model", .string settings.model),
    ("temperature", .float settings.temperature),
    ("seed", match settings.seed with
      | some seed => .int seed
      | none => .null)]

end Settings

end CodeAtlas
