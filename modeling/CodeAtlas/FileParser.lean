import CodeAtlas.FileSystem.Access
import CodeAtlas.SourceParser
import CodeAtlas.Text.Blank
import CodeAtlas.Text.Utf8
import CodeAtlas.Yaml.Value

/-!
# Parsers of files

A file parser accepts files by their paths and gives the analysis of a file or the reason why
there is none. Sources are analyzed by their languages. Documents declare nothing, but are read
all the same, and those with a scalar that cannot be converted, or with nodes that are nested too
deeply, have no analysis.
-/
namespace CodeAtlas

/-- What a failure is an instance of; every kind of failure has a name. -/
structure FailureKind where
  /-- The name of the kind. -/
  name : String
  /-- It is not empty. -/
  named : name ≠ ""
  deriving DecidableEq, Repr

namespace FailureKind

/-- The kind of a name; the empty name stands for the most general kind. -/
def ofName (name : String) : FailureKind :=
  if named : name ≠ "" then ⟨name, named⟩ else ⟨"Exception", by decide⟩

instance : Coe String FailureKind := ⟨ofName⟩

instance : Coe FailureKind String := ⟨name⟩

end FailureKind

/-- Why a file has no analysis. -/
inductive FileError where
  /-- It cannot be read. -/
  | unreadable (path : String) (cause : FileSystem.AccessError)
  /-- It is a source without an analysis. -/
  | source (error : SourceError)
  /-- It is a document with a scalar that cannot be converted, or too deeply nested. -/
  | document (fault : Yaml.Fault)
  /-- Its parser fails for a reason of its own. -/
  | failed (kind : FailureKind) (reason : String)
  deriving DecidableEq, Repr

/-- What a file error says. An access that is not possible for any path says only that. -/
def FileError.message : FileError → String
  | .unreadable path cause =>
    if cause.fault = .nullCharacter then cause.message
    else "Failed to read file " ++ path ++ ": " ++ cause.message
  | .source error => error.message
  | .document fault => fault.message
  | .failed _ reason => reason

/-- What is noted down for a file error: what it says, or its kind if it says nothing. -/
def FileError.note (error : FileError) : String :=
  if error.message = "" then
    match error with
    | .failed kind _ => kind.name
    | _ => "unknown"
  else error.message

/-- A parser of files. -/
structure FileParser where
  /-- What it is called in listings of parsers. -/
  label : String
  /-- The name of what it reads. -/
  name : String
  /-- The extensions that it accepts, in lower case. -/
  extensions : List String
  /-- The parser of sources that it is made from, if it is. -/
  sources : Option SourceParser
  /-- Whether it accepts a path, given the paths that it was asked about before. -/
  accepts : List String → String → Bool
  /-- The analysis of a file. -/
  parse : FileSystem → Path → Except FileError Analysis

namespace FileParser

/-- Whether the extension of a path is one of a list. -/
def hasExtension (extensions : List String) (path : String) : Bool :=
  extensions.contains (Path.ofString path).extension

/-- The bytes of a file. -/
def read (system : FileSystem) (path : Path) : Except FileError ByteArray :=
  (system.read path).mapError (.unreadable path.text)

/-- A file parser for sources. -/
def ofSource (label name : String) (parser : SourceParser) : FileParser where
  label
  name
  extensions := parser.extensions
  sources := some parser
  accepts _ path := hasExtension parser.extensions path
  parse system path := do
    let bytes ← read system path
    (parser.parse bytes path.text).mapError .source

/-- The parser of typed sources. -/
def typescript (searching : Depth) : FileParser :=
  ofSource "TypeScriptParser" "typescript" (.typescript searching)

/-- The parser of untyped sources. -/
def javascript (searching : Depth) : FileParser :=
  ofSource "JavaScriptParser" "javascript" (.javascript searching)

/-- The extensions of documents. -/
def documentExtensions : List String := [".yml", ".yaml"]

/-- The parser of documents whose nodes are followed to a depth. -/
def yaml (loading : Depth) : FileParser where
  label := "YAMLParser"
  name := "yaml"
  extensions := documentExtensions
  sources := none
  accepts _ path := hasExtension documentExtensions path
  parse system path := do
    let bytes ← read system path
    match Yaml.fault? loading.levels (Text.unifyBreaks (Utf8.decodeChars bytes.toList)) with
    | some fault => throw (.document fault)
    | none => return .empty

/-- How a parser is shown. -/
def shown (parser : FileParser) : String :=
  parser.label ++ "(extensions=" ++ Text.quotedTuple parser.extensions ++ ")"

end FileParser

end CodeAtlas
