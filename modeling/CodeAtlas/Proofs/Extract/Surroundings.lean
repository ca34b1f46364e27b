import CodeAtlas.Extract.Focus
import Mathlib.Data.List.Basic

/-!
# Places of a tree

`Focus.descendants` lists exactly the places that are reached from the root by going to children,
`Focus.mem_descendants_iff`, and what is above a place tells the place: `Focus.Occurs.eq_of_above`.
-/
namespace CodeAtlas.Extract.Focus

open CodeAtlas.Syntax

/-- A place of a tree: its root, or a child of a place. -/
inductive Occurs (root : Node) : Focus → Prop where
  | root : Occurs root ⟨root, []⟩
  | child {parent focus : Focus} (inside : Occurs root parent)
      (member : focus ∈ parent.children) : Occurs root focus

/-- A place and all places below it, each before its children. -/
def subtree (focus : Focus) : List Focus := walk focus.above focus.node

/-- The children of a list are its nodes, each with the nodes before it. -/
theorem mem_childrenFrom {kind : Kind} {above : List Above} {before nodes : List Node}
    {focus : Focus} :
    focus ∈ childrenFrom kind above before nodes ↔ ∃ left right,
      nodes = left ++ focus.node :: right ∧
        focus.above = ⟨kind, left.reverse ++ before⟩ :: above := by
  induction nodes generalizing before with
  | nil => simp [childrenFrom]
  | cons node nodes ih =>
    rw [childrenFrom, List.mem_cons, ih]
    constructor
    · rintro (rfl | ⟨left, right, rfl, surroundings⟩)
      · exact ⟨[], nodes, rfl, rfl⟩
      · exact ⟨node :: left, right, rfl, by simp [surroundings]⟩
    · rintro ⟨left, right, split, surroundings⟩
      cases left with
      | nil =>
        obtain ⟨rfl, rfl⟩ : node = focus.node ∧ nodes = right := by simpa using split
        left
        obtain ⟨inner, above⟩ := focus
        simp_all
      | cons first left =>
        obtain ⟨rfl, rfl⟩ : node = first ∧ nodes = left ++ focus.node :: right := by
          simpa using split
        exact .inr ⟨left, right, rfl, by simpa using surroundings⟩

/-- A child is a node of its parent, with the siblings before it. -/
theorem mem_children {parent focus : Focus} :
    focus ∈ parent.children ↔ ∃ left right,
      parent.node.children = left ++ focus.node :: right ∧
        focus.above = ⟨parent.node.kind, left.reverse⟩ :: parent.above := by
  simp only [children, mem_childrenFrom, List.append_nil]

/-- The nodes of the children are the children of the node. -/
theorem map_node_childrenFrom (kind : Kind) (above : List Above) (before nodes : List Node) :
    (childrenFrom kind above before nodes).map (·.node) = nodes := by
  induction nodes generalizing before with
  | nil => rfl
  | cons node nodes ih => rw [childrenFrom, List.map_cons, ih]

/-- The nodes of the children are the children of the node. -/
theorem map_node_children (focus : Focus) : focus.children.map (·.node) = focus.node.children :=
  map_node_childrenFrom _ _ _ _

/-- The nodes of a list are walked child by child. -/
theorem walkAll_eq_flatMap (kind : Kind) (above : List Above) (before nodes : List Node) :
    walkAll kind above before nodes = (childrenFrom kind above before nodes).flatMap subtree := by
  induction nodes generalizing before with
  | nil => rfl
  | cons node nodes ih => rw [walkAll, ih, childrenFrom, List.flatMap_cons, subtree]

/-- Below a place are its children and what is below them. -/
theorem subtree_eq (focus : Focus) : focus.subtree = focus :: focus.children.flatMap subtree := by
  obtain ⟨⟨kind, field, span, nodes⟩, above⟩ := focus
  rw [subtree, walk, walkAll_eq_flatMap]
  rfl

/-- The node of a child is smaller than that of its parent. -/
theorem sizeOf_child_lt {parent focus : Focus} (member : focus ∈ parent.children) :
    sizeOf focus.node < sizeOf parent.node := by
  obtain ⟨left, right, split, _⟩ := mem_children.mp member
  obtain ⟨⟨kind, field, span, nodes⟩, above⟩ := parent
  have inside : focus.node ∈ nodes := by
    change nodes = _ at split
    rw [split]
    exact List.mem_append_right _ (.head _)
  have smaller := List.sizeOf_lt_of_mem inside
  simp only [Node.mk.sizeOf_spec]
  omega

/-- What holds of a place if it holds of its children holds of every place. -/
@[elab_as_elim]
theorem induct {motive : Focus → Prop}
    (step : ∀ focus, (∀ child ∈ focus.children, motive child) → motive focus) (focus : Focus) :
    motive focus :=
  step focus fun child _ => induct step child
termination_by sizeOf focus.node
decreasing_by exact sizeOf_child_lt ‹_›

/-- A child of a place in a subtree is in the subtree. -/
theorem mem_subtree_of_mem_children {top parent focus : Focus} (inside : parent ∈ top.subtree)
    (member : focus ∈ parent.children) : focus ∈ top.subtree := by
  induction top using induct with
  | step top ih =>
    rw [subtree_eq] at inside ⊢
    rcases List.mem_cons.mp inside with rfl | inside
    · refine .tail _ (List.mem_flatMap.mpr ⟨focus, member, ?_⟩)
      rw [subtree_eq]
      exact .head _
    · obtain ⟨child, below, inside⟩ := List.mem_flatMap.mp inside
      exact .tail _ (List.mem_flatMap.mpr ⟨child, below, ih child below inside⟩)

/-- Places below a place of a tree are places of the tree. -/
theorem Occurs.subtree {root : Node} {top focus : Focus} (occurs : Occurs root top)
    (inside : focus ∈ top.subtree) : Occurs root focus := by
  induction top using induct with
  | step top ih =>
    rw [subtree_eq] at inside
    rcases List.mem_cons.mp inside with rfl | inside
    · exact occurs
    · obtain ⟨child, below, inside⟩ := List.mem_flatMap.mp inside
      exact ih child below (occurs.child below) inside

/-- The places of a tree are those that are listed. -/
theorem mem_descendants_iff {root : Node} {focus : Focus} :
    focus ∈ descendants root ↔ Occurs root focus := by
  constructor
  · exact Occurs.root.subtree
  · intro occurs
    induction occurs with
    | root =>
      change _ ∈ Focus.subtree ⟨root, []⟩
      rw [subtree_eq]
      exact .head _
    | @child parent focus _ member ih =>
      have inside : parent ∈ subtree ⟨root, []⟩ := ih
      exact mem_subtree_of_mem_children inside member

/-- Two children of one parent with the same before them are one child. -/
theorem eq_of_mem_children {parent first second : Focus} (left : first ∈ parent.children)
    (right : second ∈ parent.children) (same : first.above = second.above) : first = second := by
  obtain ⟨before, after, split, above⟩ := mem_children.mp left
  obtain ⟨others, rest, again, around⟩ := mem_children.mp right
  obtain rfl : before = others := by
    rw [above, around] at same
    simpa using same
  rw [split] at again
  obtain ⟨node, _⟩ : first.node = second.node ∧ after = rest := by
    simpa using List.append_cancel_left again
  cases first
  cases second
  cases same
  cases node
  rfl

/-- What is above a place tells the place. -/
theorem Occurs.eq_of_above {root : Node} {first second : Focus} (left : Occurs root first)
    (right : Occurs root second) (same : first.above = second.above) : first = second := by
  induction left generalizing second with
  | root =>
    cases right with
    | root => rfl
    | child _ member =>
      obtain ⟨_, _, _, above⟩ := mem_children.mp member
      rw [above] at same
      contradiction
  | child inside member ih =>
    obtain ⟨_, _, _, above⟩ := mem_children.mp member
    cases right with
    | root =>
      rw [above] at same
      contradiction
    | child outside other =>
      obtain ⟨_, _, _, around⟩ := mem_children.mp other
      have parents := ih outside (by
        rw [above, around] at same
        exact (List.cons.inj same).2)
      rw [← parents] at other
      exact eq_of_mem_children member other same

/-- A place is the child of one parent only. -/
theorem Occurs.parent_unique {root : Node} {first second focus : Focus} (left : Occurs root first)
    (right : Occurs root second) (inside : focus ∈ first.children)
    (again : focus ∈ second.children) : first = second := by
  obtain ⟨_, _, _, above⟩ := mem_children.mp inside
  obtain ⟨_, _, _, around⟩ := mem_children.mp again
  rw [above] at around
  exact left.eq_of_above right (List.cons.inj around).2

end CodeAtlas.Extract.Focus
