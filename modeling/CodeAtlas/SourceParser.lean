import CodeAtlas.Depth
import CodeAtlas.Extract.Declarations
import CodeAtlas.Profile
import CodeAtlas.Syntax.Parse

/-!
# Analysis of one source

A source parser covers some languages. It picks the grammar by the path of the source, and either
reports what the source declares or says why it cannot: no covered language, or a fault in the
source with the line where it begins.
-/
namespace CodeAtlas

/-- Why a source has no analysis. -/
inductive SourceError where
  /-- No covered language goes with the path. -/
  | unsupported (path : String)
  /-- The source does not follow the grammar from a line on. -/
  | syntaxFault (path : String) (line : Nat)
  /-- The tree has a fault that cannot be found. -/
  | hiddenFault (path : String)
  /-- The tree has a fault, but is nested too deeply to be searched for it. -/
  | tooDeep (path : String)
  /-- An entity of the source is not valid. -/
  | invalidEntity (path : String)
  deriving DecidableEq, Repr

/-- What a source error says. -/
def SourceError.message : SourceError → String
  | .unsupported path => "No parser registered for file: " ++ path
  | .syntaxFault path line => "Syntax error in " ++ path ++ " at line " ++ toString line
  | .hiddenFault path => "Syntax error in " ++ path
  | .tooDeep _ => "maximum recursion depth exceeded"
  | .invalidEntity path => "Invalid entity in " ++ path

/-- A parser of sources in some languages. -/
structure SourceParser where
  /-- The languages it covers. -/
  languages : List Language
  /-- How deeply a tree can be searched. -/
  searching : Depth
  deriving DecidableEq, Repr

namespace SourceParser

/-- The parser of typed sources. -/
def typescript (searching : Depth) : SourceParser := ⟨[.typescript, .tsx], searching⟩

/-- The parser of untyped sources. -/
def javascript (searching : Depth) : SourceParser := ⟨[.javascript], searching⟩

/-- The extensions of the covered languages. -/
def extensions (parser : SourceParser) : List String := parser.languages.flatMap (·.extensions)

/-- The covered language of a path. -/
def language? (parser : SourceParser) (path : String) : Option Language :=
  (Language.ofPath? (Path.ofString path)).filter parser.languages.contains

/-- The analysis of a tree; so many levels of it can be searched for a fault. -/
def ofTree (levels : Nat) (source : Extract.SourceFile) (root : Syntax.Node) :
    Except SourceError Analysis :=
  if root.hasError then
    match root.firstError? levels with
    | .ok (some fault) => .error (.syntaxFault source.path (fault.span.startRow + 1))
    | .ok none => .error (.hiddenFault source.path)
    | .error .tooDeep => .error (.tooDeep source.path)
  else
    let analysis := source.analysis root
    if analysis.Valid then .ok analysis else .error (.invalidEntity source.path)

/-- The analysis of a source, as if it stood at a path. -/
def parse (parser : SourceParser) (bytes : ByteArray) (path : String) :
    Except SourceError Analysis :=
  match parser.language? path with
  | none => .error (.unsupported path)
  | some language =>
    ofTree parser.searching.levels ⟨path, language, bytes⟩ (Syntax.parse language bytes.toList)

end SourceParser

end CodeAtlas
