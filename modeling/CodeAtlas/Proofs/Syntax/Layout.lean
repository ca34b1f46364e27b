import CodeAtlas.Language
import CodeAtlas.Syntax.Node

/-!
# Trees whose parts stand in order

In a tree that was read from a source the children of a node stand in order within it, and none is
empty. No construct but the program begins with a declaration, a variable begins with its name, and
a class has no name but one of a class. `Node.WellFormed` says so; it is what places of declarations
are compared by.
-/
namespace CodeAtlas.Syntax

/-- Whether nodes of a kind declare a function, a class or a variable. -/
def Kind.isDeclaration : Kind → Bool
  | .functionDeclaration | .generatorFunctionDeclaration | .classDeclaration
  | .abstractClassDeclaration | .variableDeclarator => Bool.true
  | _ => Bool.false

/-- Whether nodes of a kind declare a class. -/
def Kind.isClass : Kind → Bool
  | .classDeclaration | .abstractClassDeclaration => Bool.true
  | _ => Bool.false

/-- What declares a class is a declaration. -/
theorem isDeclaration_of_isClass {kind : Kind} (cls : kind.isClass = true) :
    kind.isDeclaration = true := by
  cases kind with
  | classDeclaration | abstractClassDeclaration => rfl
  | _ => contradiction

/-- The kind of node that names a class. -/
def classLabel (language : Language) : Kind :=
  if language.typed then .typeIdentifier else .identifier

namespace Node

/-- Nodes that are not empty stand one after the other between two offsets. -/
def Chained (first last : Nat) : List Node → Prop
  | [] => first ≤ last
  | node :: nodes =>
    first ≤ node.span.start ∧ node.span.start < node.span.stop ∧ Chained node.span.stop last nodes

/-- The children of a node stand in order within it. -/
def Ordered (node : Node) : Prop := Chained node.span.start node.span.stop node.children

/-- A construct does not begin with a declaration, a variable begins with its name, and a class has
no name but one of a class. -/
structure Headed (language : Language) (node : Node) : Prop where
  /-- The first child is no declaration. -/
  plain : ∀ first ∈ node.children.head?, first.kind.isDeclaration = false
  /-- The name of a variable is where the variable begins. -/
  named : node.kind = .variableDeclarator →
    ∀ label ∈ node.child? .name, label.span.start = node.span.start
  /-- The name of a class is one of a class. -/
  labelled : node.kind.isClass = true →
    ∀ label ∈ node.child? .name, label.kind = classLabel language

/-- A program of a language whose nodes are as reading makes them. -/
structure WellFormed (language : Language) (root : Node) : Prop where
  /-- The tree is a program. -/
  program : root.kind = .program
  /-- All nodes have their children in order. -/
  ordered : ∀ node ∈ root.preorder, node.Ordered
  /-- All nodes below the program begin as constructs do. -/
  headed : ∀ child ∈ root.children, ∀ node ∈ child.preorder, node.Headed language

/-- The offsets between which nodes stand may be moved apart. -/
theorem Chained.widen {first last least most : Nat} {nodes : List Node}
    (chained : Chained first last nodes) (before : least ≤ first) (after : last ≤ most) :
    Chained least most nodes := by
  induction nodes generalizing first least with
  | nil => exact Nat.le_trans before (Nat.le_trans chained after)
  | cons node nodes ih =>
    obtain ⟨starts, occupied, rest⟩ := chained
    exact ⟨Nat.le_trans before starts, occupied, ih rest (Nat.le_refl _)⟩

/-- Nodes between two offsets are between their outer ones. -/
theorem Chained.le {first last : Nat} {nodes : List Node} (chained : Chained first last nodes) :
    first ≤ last := by
  induction nodes generalizing first with
  | nil => exact chained
  | cons node nodes ih =>
    obtain ⟨starts, occupied, rest⟩ := chained
    have within := ih rest
    omega

/-- Each of the nodes is between the offsets. -/
theorem Chained.bounds {first last : Nat} {nodes : List Node} (chained : Chained first last nodes) :
    ∀ node ∈ nodes, first ≤ node.span.start ∧ node.span.start < node.span.stop ∧
      node.span.stop ≤ last := by
  induction nodes generalizing first with
  | nil => exact List.forall_mem_nil _
  | cons node nodes ih =>
    obtain ⟨starts, occupied, rest⟩ := chained
    refine List.forall_mem_cons.mpr ⟨⟨starts, occupied, rest.le⟩, fun other member => ?_⟩
    obtain ⟨after, nonempty, within⟩ := ih rest other member
    exact ⟨by omega, nonempty, within⟩

/-- Each of the nodes ends before the next begins. -/
theorem Chained.pairwise {first last : Nat} {nodes : List Node}
    (chained : Chained first last nodes) :
    nodes.Pairwise fun left right => left.span.stop ≤ right.span.start := by
  induction nodes generalizing first with
  | nil => exact .nil
  | cons node nodes ih =>
    obtain ⟨_, _, rest⟩ := chained
    exact .cons (fun other member => (rest.bounds other member).1) (ih rest)

/-- Nodes between two offsets, followed by nodes after them. -/
theorem Chained.append {first middle last : Nat} {left right : List Node}
    (before : Chained first middle left) (after : Chained middle last right) :
    Chained first last (left ++ right) := by
  induction left generalizing first with
  | nil => exact after.widen before (Nat.le_refl _)
  | cons node nodes ih =>
    obtain ⟨starts, occupied, rest⟩ := before
    exact ⟨starts, occupied, ih rest⟩

mutual

/-- The nodes of a tree are the tree and the nodes of its children. -/
theorem mem_preorder {focus : Node} : ∀ {node : Node},
    focus ∈ node.preorder ↔ focus = node ∨ ∃ child ∈ node.children, focus ∈ child.preorder
  | .mk kind field span nodes => by
    rw [preorder, List.mem_cons, mem_preorderAll]
    rfl

/-- The nodes of trees are the nodes of each. -/
theorem mem_preorderAll {focus : Node} : ∀ {nodes : List Node},
    focus ∈ preorderAll nodes ↔ ∃ node ∈ nodes, focus ∈ node.preorder
  | [] => by simp [preorderAll]
  | node :: nodes => by simp [preorderAll, mem_preorderAll]

end

mutual

/-- A node of a node of a tree is one of the tree. -/
theorem mem_preorder_trans {middle focus : Node} : ∀ {node : Node},
    middle ∈ node.preorder → focus ∈ middle.preorder → focus ∈ node.preorder
  | .mk kind field span nodes, outer, inner => by
    rw [preorder, List.mem_cons] at outer
    rcases outer with rfl | below
    · exact inner
    · exact List.mem_cons_of_mem _ (mem_preorderAll_trans below inner)

/-- A node of a node of trees is one of the trees. -/
theorem mem_preorderAll_trans {middle focus : Node} : ∀ {nodes : List Node},
    middle ∈ preorderAll nodes → focus ∈ middle.preorder → focus ∈ preorderAll nodes
  | [], outer, _ => by contradiction
  | node :: nodes, outer, inner => by
    rw [preorderAll, List.mem_append] at outer ⊢
    rcases outer with here | later
    · exact .inl (mem_preorder_trans here inner)
    · exact .inr (mem_preorderAll_trans later inner)

end

/-- A child of a node of a tree is a node of the tree. -/
theorem mem_preorder_of_mem_children {root node child : Node} (member : node ∈ root.preorder)
    (below : child ∈ node.children) : child ∈ root.preorder :=
  mem_preorder_trans member (mem_preorder.mpr (.inr ⟨child, below, mem_preorder.mpr (.inl rfl)⟩))

end Node

end CodeAtlas.Syntax
