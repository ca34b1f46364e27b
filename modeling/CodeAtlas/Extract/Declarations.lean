import CodeAtlas.Extract.Callable

/-!
# Functions and classes of a tree

Which nodes of a tree are reported. Functions: declarations that are statements of the program or
are exported by one, and functions that are the value of a variable with a plain name, wherever
they stand. Classes: declarations with a name, wherever they stand; their members are the direct
children of their own bodies.
-/
namespace CodeAtlas.Extract

open CodeAtlas.Syntax

/-- The name of a member that has none. -/
def anonymous : String := "<anonymous>"

/-- A function node with the node that names it and the place it is ordered by. -/
structure NamedFunction where
  /-- The function. -/
  focus : Focus
  /-- The node that names it. -/
  label : Node
  /-- Where it counts as beginning. -/
  start : Nat

/-- Whether a node declares a function or generator. -/
def declaresFunction (node : Node) : Bool :=
  node.kind == .functionDeclaration || node.kind == .generatorFunctionDeclaration

/-- Whether a node is a function that can be the value of a variable. -/
def isFunctionValue (node : Node) : Bool :=
  node.kind == .arrowFunction || node.kind == .functionExpression ||
    node.kind == .generatorFunction

/-- The name of a node, if it is a node of a kind. -/
def nameOfKind? (kind : Kind) (node : Node) : Option Node :=
  (node.child? .name).filter (·.kind == kind)

/-- The declaration of a function at a node. -/
def declaredFunction? (focus : Focus) : Option NamedFunction :=
  if declaresFunction focus.node then
    (nameOfKind? .identifier focus.node).map fun label => ⟨focus, label, focus.node.span.start⟩
  else none

/-- The function that the variable at a node is bound to. -/
def boundFunction? (focus : Focus) : Option NamedFunction :=
  if focus.node.kind == .variableDeclarator then
    match nameOfKind? .identifier focus.node, focus.child? .value with
    | some label, some value =>
      if isFunctionValue value.node then some ⟨value, label, label.span.start⟩ else none
    | _, _ => none
  else none

/-- The functions declared by a statement of a program: itself, or what it exports. -/
def topLevelFunctions (statement : Focus) : List NamedFunction :=
  (declaredFunction? statement).toList ++
    if statement.node.kind == .exportStatement then
      (statement.children.filter (·.node.field == some .declaration)).filterMap declaredFunction?
    else []

/-- All functions of a tree: the declared ones and the bound ones. -/
def allFunctions (root : Node) : List NamedFunction :=
  let top : Focus := ⟨root, []⟩
  (if root.kind == .program then top.children.flatMap topLevelFunctions else []) ++
    (Focus.descendants root).filterMap boundFunction?

/-- The functions of a tree in the order of their beginnings. -/
def orderedFunctions (root : Node) : List NamedFunction :=
  (allFunctions root).mergeSort fun first second => first.start ≤ second.start

/-- Whether a node declares a class that is reported. -/
def declaresClass (language : Language) (node : Node) : Bool :=
  node.kind == .classDeclaration || (language.typed && node.kind == .abstractClassDeclaration)

/-- The kind of node that names a class. -/
def classNameKind (language : Language) : Kind :=
  if language.typed then .typeIdentifier else .identifier

/-- The class declarations of a tree in document order, each with the node that names it. -/
def classNodes (language : Language) (root : Node) : List (Focus × Node) :=
  (Focus.descendants root).filterMap fun focus =>
    if declaresClass language focus.node then
      (nameOfKind? (classNameKind language) focus.node).map (focus, ·)
    else none

/-- The kind of a field of a class. -/
def propertyKind (language : Language) : Kind :=
  if language.typed then .publicFieldDefinition else .fieldDefinition

/-- The place of the name of a field. -/
def propertyField (language : Language) : Field :=
  if language.typed then .name else .property

namespace SourceFile

/-- The name in a place of a member. -/
def memberName (source : SourceFile) (member : Node) (field : Field) : String :=
  let text := ((member.child? field).map source.text).getD ""
  if text.isEmpty then anonymous else text

/-- The direct members of the body of a class. -/
def members (focus : Focus) : List Focus :=
  match focus.child? .body with
  | some body => body.children
  | none => []

/-- A method of a class. -/
def method (source : SourceFile) (member : Focus) : Function :=
  source.function (source.memberName member.node .name) member

/-- A field of a class. -/
def property (source : SourceFile) (member : Focus) : Property where
  name := source.memberName member.node (propertyField source.language)
  type := source.typeIn member.node .type
  documentation := source.documentation member

/-- The class that a node declares. -/
def classOf (source : SourceFile) (focus : Focus) (label : Node) : Class where
  name := source.text label
  methods := ((members focus).filter (·.node.kind == .methodDefinition)).map source.method
  properties :=
    ((members focus).filter (·.node.kind == propertyKind source.language)).map source.property
  documentation := source.documentation focus
  location := source.location focus.node
  note := none

/-- The functions of a tree. -/
def functions (source : SourceFile) (root : Node) : List Function :=
  (orderedFunctions root).map fun found => source.function (source.text found.label) found.focus

/-- The classes of a tree. -/
def classes (source : SourceFile) (root : Node) : List Class :=
  (classNodes source.language root).map fun (focus, label) => source.classOf focus label

/-- What a tree without an error declares. -/
def analysis (source : SourceFile) (root : Node) : Analysis :=
  ⟨source.functions root, source.classes root⟩

end SourceFile

end CodeAtlas.Extract
