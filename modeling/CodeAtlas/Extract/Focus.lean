import CodeAtlas.Syntax.Node

/-!
# Nodes in their surroundings

A focus is a node of a tree together with the nodes around it: for each node above it, the kind
of that node and the children before the one that leads to the focus, nearest first.
`Focus.descendants` lists every node of a tree so, in document order.
-/
namespace CodeAtlas.Extract

open CodeAtlas.Syntax

/-- One step up from a node. -/
structure Above where
  /-- The kind of the node above. -/
  kind : Kind
  /-- The siblings before, nearest first. -/
  before : List Node
  deriving Repr

/-- A node with the nodes around it, nearest first. -/
structure Focus where
  /-- The node. -/
  node : Node
  /-- What is above it. -/
  above : List Above
  deriving Repr

namespace Focus

/-- The siblings before the node, nearest first. -/
def before (focus : Focus) : List Node :=
  match focus.above with
  | [] => []
  | step :: _ => step.before

/-- The kind of the node above. -/
def parentKind? (focus : Focus) : Option Kind := focus.above.head?.map (·.kind)

/-- The children of a list in their surroundings. -/
def childrenFrom (kind : Kind) (above : List Above) : List Node → List Node → List Focus
  | _, [] => []
  | before, node :: nodes =>
    ⟨node, ⟨kind, before⟩ :: above⟩ :: childrenFrom kind above (node :: before) nodes

/-- The children of the node in their surroundings. -/
def children (focus : Focus) : List Focus :=
  childrenFrom focus.node.kind focus.above [] focus.node.children

/-- The first child in a place. -/
def child? (focus : Focus) (field : Field) : Option Focus :=
  focus.children.find? (·.node.field == some field)

mutual

/-- A node and all nodes below it in their surroundings, each before its children. -/
def walk (above : List Above) : Node → List Focus
  | .mk kind field span children =>
    ⟨.mk kind field span children, above⟩ :: walkAll kind above [] children

/-- The nodes of a list and all nodes below them. -/
def walkAll (kind : Kind) (above : List Above) : List Node → List Node → List Focus
  | _, [] => []
  | before, node :: nodes =>
    walk (⟨kind, before⟩ :: above) node ++ walkAll kind above (node :: before) nodes

end

/-- Every node of a tree in its surroundings, each before its children. -/
def descendants (root : Node) : List Focus := walk [] root

end Focus

end CodeAtlas.Extract
