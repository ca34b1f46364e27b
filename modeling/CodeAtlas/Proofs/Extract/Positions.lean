import CodeAtlas.Proofs.Extract.Surroundings
import CodeAtlas.Proofs.Syntax.Layout

/-!
# Positions of declarations

In a well-formed tree declarations begin at different offsets, and they are listed in the order of
their beginnings: `descendants_ascending`. A declaration below a construct begins after it, so
neither nesting nor the order of siblings can make two of them begin together.
-/
namespace CodeAtlas.Extract

open CodeAtlas.Syntax

namespace Focus

/-- Where a place begins. -/
def start (focus : Focus) : Nat := focus.node.span.start

/-- Where a place ends. -/
def stop (focus : Focus) : Nat := focus.node.span.stop

/-- The place is a declaration. -/
def Declares (focus : Focus) : Prop := focus.node.kind.isDeclaration = true

variable {language : Language} {root : Node} {focus : Focus}

/-- The children of a place of which nodes hold something hold it as places. -/
theorem pairwise_children {relation : Node → Node → Prop}
    (nodes : focus.node.children.Pairwise relation) :
    focus.children.Pairwise fun left right => relation left.node right.node := by
  rw [← map_node_children, List.pairwise_map] at nodes
  exact nodes

/-- A child's node is a child of the node. -/
theorem node_mem_children {child : Focus} (member : child ∈ focus.children) :
    child.node ∈ focus.node.children := by
  rw [← map_node_children]
  exact List.mem_map_of_mem member

/-- Places of which all nodes have their children in order. -/
def Orderly (focus : Focus) : Prop := ∀ node ∈ focus.node.preorder, node.Ordered

/-- Places of which all nodes begin as constructs do. -/
def Sound (language : Language) (focus : Focus) : Prop :=
  ∀ node ∈ focus.node.preorder, node.Headed language

/-- The children of an orderly place are orderly. -/
theorem Orderly.child {child : Focus} (orderly : focus.Orderly) (member : child ∈ focus.children) :
    child.Orderly := fun node inside =>
  orderly node (Node.mem_preorder.mpr (.inr ⟨child.node, node_mem_children member, inside⟩))

/-- The children of a sound place are sound. -/
theorem Sound.child {child : Focus} (sound : focus.Sound language)
    (member : child ∈ focus.children) : child.Sound language := fun node inside =>
  sound node (Node.mem_preorder.mpr (.inr ⟨child.node, node_mem_children member, inside⟩))

/-- The node of an orderly place has its children in order. -/
theorem Orderly.ordered (orderly : focus.Orderly) : focus.node.Ordered :=
  orderly focus.node (Node.mem_preorder.mpr (.inl rfl))

/-- A child of an orderly place is within it and not empty. -/
theorem Orderly.bounds {child : Focus} (orderly : focus.Orderly)
    (member : child ∈ focus.children) :
    focus.start ≤ child.start ∧ child.start < child.stop ∧ child.stop ≤ focus.stop :=
  orderly.ordered.bounds child.node (node_mem_children member)

/-- The children of an orderly place stand one after the other. -/
theorem Orderly.pairwise (orderly : focus.Orderly) :
    focus.children.Pairwise fun left right => left.stop ≤ right.start :=
  pairwise_children orderly.ordered.pairwise

/-- What is below an orderly place is within it. -/
theorem Orderly.within {top : Focus} (orderly : top.Orderly) (occupied : top.start < top.stop)
    (inside : focus ∈ top.subtree) :
    top.start ≤ focus.start ∧ focus.start < focus.stop ∧ focus.stop ≤ top.stop := by
  induction top using induct with
  | step top ih =>
    rw [subtree_eq] at inside
    rcases List.mem_cons.mp inside with rfl | inside
    · exact ⟨Nat.le_refl _, occupied, Nat.le_refl _⟩
    · obtain ⟨child, below, inside⟩ := List.mem_flatMap.mp inside
      obtain ⟨starts, nonempty, stops⟩ := orderly.bounds below
      obtain ⟨after, length, before⟩ := ih child below (orderly.child below) nonempty inside
      exact ⟨by omega, length, by omega⟩

/-- A declaration below a construct begins after the construct. -/
theorem Orderly.start_lt {top : Focus} (orderly : top.Orderly) (sound : top.Sound language)
    (declares : focus.Declares) (inside : focus ∈ top.children.flatMap subtree) :
    top.start < focus.start := by
  induction top using induct with
  | step top ih =>
    obtain ⟨child, below, inside⟩ := List.mem_flatMap.mp inside
    obtain ⟨starts, occupied, _⟩ := orderly.bounds below
    have within := ((orderly.child below).within occupied inside).1
    obtain ⟨left, right, split, _⟩ := mem_children.mp below
    cases left with
    | nil =>
      -- The first child is no declaration, so the declaration is further down.
      have plain := (sound top.node (Node.mem_preorder.mpr (.inl rfl))).plain child.node
        (by rw [split]; rfl)
      rw [subtree_eq] at inside
      rcases List.mem_cons.mp inside with rfl | deeper
      · rw [Declares, plain] at declares
        contradiction
      · have after := ih child below (orderly.child below) (sound.child below) deeper
        omega
    | cons first left =>
      have chained := orderly.ordered
      rw [Node.Ordered, split] at chained
      obtain ⟨begins, nonempty, rest⟩ := chained
      have after : first.span.stop ≤ child.start :=
        (rest.bounds child.node (List.mem_append_right _ (.head _))).1
      change top.start ≤ first.span.start at begins
      omega

/-- Declarations below a construct are listed in the order of their beginnings. -/
theorem Orderly.ascending {top : Focus} (orderly : top.Orderly)
    (sound : ∀ child ∈ top.children, child.Sound language)
    (first : top.Declares → top.Sound language) :
    top.subtree.Pairwise fun left right =>
      left.Declares → right.Declares → left.start < right.start := by
  induction top using induct with
  | step top ih =>
    rw [subtree_eq, List.pairwise_cons, List.pairwise_flatMap]
    refine ⟨fun right inside declares declared =>
      orderly.start_lt (first declares) declared inside, fun child below => ?_, ?_⟩
    · have below' := sound child below
      exact ih child below (orderly.child below) (fun _ => below'.child) fun _ => below'
    · refine orderly.pairwise.imp_of_mem fun {left right} leftBelow rightBelow apart => ?_
      intro one inLeft other inRight _ _
      have occupied := (orderly.bounds leftBelow).2.1
      have within := (orderly.child leftBelow).within occupied inLeft
      have following := (orderly.child rightBelow).within (orderly.bounds rightBelow).2.1 inRight
      omega

end Focus

open Focus

variable {language : Language} {root : Node}

/-- In a well-formed tree declarations are listed in the order of their beginnings. -/
theorem descendants_ascending (wellFormed : root.WellFormed language) :
    (descendants root).Pairwise fun left right =>
      left.Declares → right.Declares → left.start < right.start := by
  have orderly : Orderly ⟨root, []⟩ := wellFormed.ordered
  have sound : ∀ child ∈ Focus.children ⟨root, []⟩, child.Sound language := fun child member =>
    wellFormed.headed child.node (node_mem_children member)
  refine orderly.ascending sound fun declares => ?_
  · rw [Declares, wellFormed.program] at declares
    contradiction

/-- In a well-formed tree all places but the root begin as constructs do. -/
theorem Focus.Occurs.eq_root_or_sound {focus : Focus} (occurs : Occurs root focus)
    (wellFormed : root.WellFormed language) : focus = ⟨root, []⟩ ∨ focus.Sound language := by
  induction occurs with
  | root => exact .inl rfl
  | child inside member ih =>
    rcases ih with rfl | sound
    · exact .inr (wellFormed.headed _ (node_mem_children member))
    · exact .inr (sound.child member)

/-- In a well-formed tree all places have their children in order. -/
theorem Focus.Occurs.orderly {focus : Focus} (occurs : Occurs root focus)
    (wellFormed : root.WellFormed language) : focus.Orderly := by
  induction occurs with
  | root => exact wellFormed.ordered
  | child inside member ih => exact ih.child member

/-- In a well-formed tree a declaration is told by where it begins. -/
theorem eq_of_start {first second : Focus} (wellFormed : root.WellFormed language)
    (left : Occurs root first) (right : Occurs root second) (declares : first.Declares)
    (declared : second.Declares) (same : first.start = second.start) : first = second := by
  have ascending := List.pairwise_iff_getElem.mp (descendants_ascending wellFormed)
  obtain ⟨i, inside, rfl⟩ := List.getElem_of_mem (mem_descendants_iff.mpr left)
  obtain ⟨j, within, rfl⟩ := List.getElem_of_mem (mem_descendants_iff.mpr right)
  rcases Nat.lt_trichotomy i j with before | rfl | after
  · have apart := ascending i j inside within before declares declared
    omega
  · rfl
  · have apart := ascending j i within inside after declared declares
    omega

end CodeAtlas.Extract
