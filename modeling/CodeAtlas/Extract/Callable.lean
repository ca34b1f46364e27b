import CodeAtlas.Entity.Basic
import CodeAtlas.Language
import CodeAtlas.Extract.Documentation
import CodeAtlas.Text.Utf8

/-!
# What a function node says

Parameters, result type, body and place of a function-like node. A parameter is named by the
identifier it binds, or by the text of its pattern; default values, types and modifiers are never
part of the name. Untyped sources have no types.
-/
namespace CodeAtlas.Extract

open CodeAtlas.Syntax

/-- A source as the extraction sees it. -/
structure SourceFile where
  /-- Path that locations name. -/
  path : String
  /-- Language of the source. -/
  language : Language
  /-- The bytes that extents count. -/
  bytes : ByteArray

namespace SourceFile

/-- The characters of an extent. -/
def chars (source : SourceFile) (span : Span) : List Char :=
  Utf8.decodeChars (source.bytes.extract span.start span.stop).toList

/-- The characters of a node. -/
def nodeChars (source : SourceFile) (node : Node) : List Char := source.chars node.span

/-- The text of a node. -/
def text (source : SourceFile) (node : Node) : String := String.ofList (source.nodeChars node)

/-- The place of a node. -/
def location (source : SourceFile) (node : Node) : Location :=
  ⟨source.path, node.span.startRow + 1, node.span.stopRow + 1⟩

/-- The documentation of a node. -/
def documentation (source : SourceFile) (focus : Focus) : String :=
  String.ofList (Extract.documentation source.nodeChars focus)

/-- The type that a node writes after its colon. -/
def typeText (source : SourceFile) (node : Node) : String :=
  let chars := Text.trim ((source.nodeChars node).dropWhile (· = ':'))
  if chars.isEmpty then unresolvedType else String.ofList chars

/-- The type in a place of a node, in typed sources. -/
def typeIn (source : SourceFile) (node : Node) (field : Field) : String :=
  if source.language.typed then
    match node.child? field with
    | some type => source.typeText type
    | none => unresolvedType
  else unresolvedType

mutual

/-- The node that names what a pattern binds: the target of a default, the identifier of a rest,
or the pattern itself. -/
def bound : Node → Node
  | .mk .assignmentPattern field span children =>
    boundLeft (.mk .assignmentPattern field span children) children
  | .mk .restPattern field span children =>
    (children.find? (·.kind == .identifier)).getD (.mk .restPattern field span children)
  | node => node

/-- What the first of the nodes that stands on the left binds, or else the given node. -/
def boundLeft (whole : Node) : List Node → Node
  | [] => whole
  | node :: nodes => if node.field == some .left then bound node else boundLeft whole nodes

end

/-- The name that a pattern binds. -/
def boundName (source : SourceFile) (pattern : Node) : String := source.text (bound pattern)

/-- One parameter of a list. -/
def parameter (source : SourceFile) (node : Node) : Parameter :=
  if node.kind == .requiredParameter || node.kind == .optionalParameter then
    ⟨source.boundName ((node.child? .pattern).getD node), source.typeIn node .type⟩
  else ⟨source.boundName node, unresolvedType⟩

/-- The parameters of a function-like node. -/
def parameters (source : SourceFile) (node : Node) : List Parameter :=
  match node.child? .parameters with
  | some list =>
    (list.namedChildren.filter (·.kind != .comment)).map source.parameter
  | none =>
    match node.child? .parameter with
    | some single => [⟨source.text single, unresolvedType⟩]
    | none => []

/-- The function that a function-like node declares under a name. -/
def function (source : SourceFile) (name : String) (focus : Focus) : Function where
  name := name
  parameters := source.parameters focus.node
  returnType := source.typeIn focus.node .returnType
  body := some (source.text ((focus.node.child? .body).getD focus.node))
  documentation := source.documentation focus
  location := source.location focus.node

end SourceFile

end CodeAtlas.Extract
