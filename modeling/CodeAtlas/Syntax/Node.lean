import CodeAtlas.Source.Cursor
import CodeAtlas.Syntax.Kind

/-!
# Concrete syntax trees

A tree keeps every token and every comment of a source, each with its extent. A tree has an
error when one of its nodes is an error or a missing token. `Node.firstError?` finds the first
such node in document order without entering subtrees that have none, unless it stands too deep.
-/
namespace CodeAtlas.Syntax

/-- A node of a concrete syntax tree. -/
inductive Node where
  /-- A node of a kind, in a place of its parent, over an extent, with its children in order. -/
  | mk (kind : Kind) (field : Option Field) (span : Span) (children : List Node)
  deriving Repr

namespace Node

/-- What the node is. -/
def kind : Node → Kind
  | .mk kind _ _ _ => kind

/-- The place of the node in its parent. -/
def field : Node → Option Field
  | .mk _ field _ _ => field

/-- The extent of the node. -/
def span : Node → Span
  | .mk _ _ span _ => span

/-- The children of the node in source order. -/
def children : Node → List Node
  | .mk _ _ _ children => children

/-- The children that are named. -/
def namedChildren (node : Node) : List Node := node.children.filter (·.kind.isNamed)

/-- The first child that stands in a place. -/
def child? (node : Node) (field : Field) : Option Node :=
  node.children.find? (·.field == some field)

/-- Whether the node itself marks a fault. -/
def isFault (node : Node) : Bool := node.kind == .error || node.kind == .missing

mutual

/-- Whether the node or a node below it marks a fault. -/
def hasError : Node → Bool
  | .mk kind _ _ children => kind == .error || kind == .missing || anyHasError children

/-- Whether one of the nodes has an error. -/
def anyHasError : List Node → Bool
  | [] => false
  | node :: nodes => hasError node || anyHasError nodes

end

/-- Why a search ends before the tree does. -/
inductive SearchError where
  /-- Nodes are nested more deeply than can be searched. -/
  | tooDeep
  deriving DecidableEq, Repr

mutual

/-- The first fault in document order, entering only subtrees that have an error, and no more than
so many levels of them. -/
def firstError? (levels : Nat) : Node → Except SearchError (Option Node)
  | .mk kind field span children =>
    match levels with
    | 0 => .error .tooDeep
    | levels + 1 =>
      if kind == .error || kind == .missing then .ok (some (.mk kind field span children))
      else firstErrorAmong? levels children

/-- The first fault in the first of the nodes that leads to one. -/
def firstErrorAmong? (levels : Nat) : List Node → Except SearchError (Option Node)
  | [] => .ok none
  | node :: nodes =>
    if hasError node then
      match firstError? levels node with
      | .error error => .error error
      | .ok (some fault) => .ok (some fault)
      | .ok none => firstErrorAmong? levels nodes
    else firstErrorAmong? levels nodes

end

mutual

/-- The node and all nodes below it, each before its children. -/
def preorder : Node → List Node
  | .mk kind field span children => .mk kind field span children :: preorderAll children

/-- All nodes of a list of trees, tree after tree. -/
def preorderAll : List Node → List Node
  | [] => []
  | node :: nodes => preorder node ++ preorderAll nodes

end

end Node

end CodeAtlas.Syntax
