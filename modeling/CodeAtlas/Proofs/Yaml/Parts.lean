import CodeAtlas.Yaml.Node

/-!
# Parts of nodes

What stands inside of a node, at any depth. Between two drafts nodes are made: their collections
have the numbers that were given in the meantime, each its own, so that what is made one after the
other is told apart by its numbers: `Made.append`, `Made.collection`.
-/
namespace CodeAtlas.Yaml

/-! ## Parts of nodes -/

namespace Node

/-- The key and the value of an entry. -/
def pair (entry : Node × Node) : List Node := [entry.1, entry.2]

/-- The nodes right inside a node. -/
def children : Node → List Node
  | sequence _ _ items => items
  | mapping _ _ entries => entries.flatMap pair
  | _ => []

/-- The number of a collection. -/
def number? : Node → Option Nat
  | sequence number _ _ | mapping number _ _ => some number
  | _ => none

/-- A node is another one or inside of it. -/
inductive Within (part : Node) : Node → Prop where
  /-- A node is within itself. -/
  | self : Within part part
  /-- What is within a child is within the node. -/
  | child {whole inner : Node} (member : inner ∈ whole.children) (inside : Within part inner) :
    Within part whole

/-- A node is within one of others. -/
def Inside (part : Node) (nodes : List Node) : Prop := ∃ node ∈ nodes, Within part node

variable {part : Node} {front back nodes : List Node}

theorem inside_append : Inside part (front ++ back) ↔ Inside part front ∨ Inside part back := by
  simp [Inside, or_and_right, exists_or]

theorem not_inside_nil : ¬ Inside part [] := by simp [Inside]

/-- What is within a node is the node or within its children. -/
theorem inside_singleton {node : Node} :
    Inside part [node] ↔ part = node ∨ Inside part node.children := by
  constructor
  · rintro ⟨_, member, within⟩
    obtain rfl := List.mem_singleton.mp member
    cases within with
    | self => exact .inl rfl
    | child member inside => exact .inr ⟨_, member, inside⟩
  · rintro (rfl | ⟨inner, member, inside⟩)
    · exact ⟨part, List.mem_singleton_self part, .self⟩
    · exact ⟨node, List.mem_singleton_self node, .child member inside⟩

end Node

open Node

/-! ## What steps make -/

/-- Between two drafts nodes were made: their collections have the numbers that were given in the
meantime, each its own, and what was given an anchor is within them. -/
structure Made (before after : Draft) (nodes : List Node) : Prop where
  /-- Numbers are used up. -/
  count : before.count ≤ after.count
  /-- Collections have the numbers that were given. -/
  numbered : ∀ part, Inside part nodes → ∀ number, part.number? = some number →
    before.count ≤ number ∧ number < after.count
  /-- No two collections have one number. -/
  single : ∀ first second, Inside first nodes → Inside second nodes → ∀ number,
    first.number? = some number → second.number? = some number → first = second
  /-- The anchors that are new lead into the nodes. -/
  anchored : ∀ entry ∈ after.anchored, entry ∈ before.anchored ∨ Inside entry.2 nodes

namespace Made

variable {before between after : Draft} {nodes front back : List Node}

/-- Nothing is made when numbers are used up and anchors do not change. -/
theorem idle (count : before.count ≤ after.count) (anchored : after.anchored = before.anchored) :
    Made before after [] where
  count := count
  numbered _ inside := absurd inside not_inside_nil
  single _ _ inside := absurd inside not_inside_nil
  anchored _ member := .inl (anchored ▸ member)

/-- What is made one after the other is made together. -/
theorem append (first : Made before between front) (second : Made between after back) :
    Made before after (front ++ back) where
  count := Nat.le_trans first.count second.count
  numbered part inside number found := by
    have ascending := first.count
    have further := second.count
    rcases inside_append.mp inside with inFront | inBack
    · have bounds := first.numbered part inFront number found
      omega
    · have bounds := second.numbered part inBack number found
      omega
  single one other inOne inOther number found same := by
    -- Numbers in front are less than those behind.
    rcases inside_append.mp inOne with oneFront | oneBack <;>
      rcases inside_append.mp inOther with otherFront | otherBack
    · exact first.single one other oneFront otherFront number found same
    · have low := first.numbered one oneFront number found
      have high := second.numbered other otherBack number same
      omega
    · have high := second.numbered one oneBack number found
      have low := first.numbered other otherFront number same
      omega
    · exact second.single one other oneBack otherBack number found same
  anchored entry member := by
    rcases second.anchored entry member with earlier | inBack
    · exact (first.anchored entry earlier).imp_right fun inFront =>
        inside_append.mpr (.inl inFront)
    · exact .inr (inside_append.mpr (.inr inBack))

/-- A node without a number and without children is made of nothing. -/
theorem leaf {node : Node} (made : Made before after []) (bare : node.children = [])
    (free : node.number? = none) : Made before after [node] where
  count := made.count
  numbered part inside number found := by
    rcases inside_singleton.mp inside with rfl | deeper
    · rw [free] at found
      cases found
    · exact absurd (bare ▸ deeper) not_inside_nil
  single one other inOne _ number found _ := by
    rcases inside_singleton.mp inOne with rfl | deeper
    · rw [free] at found
      cases found
    · exact absurd (bare ▸ deeper) not_inside_nil
  anchored entry member :=
    (made.anchored entry member).imp_right fun inside => absurd inside not_inside_nil

/-- A collection is made of its children if its number was given before them. -/
theorem collection {node : Node} (made : Made between after node.children)
    (number : node.number? = some before.count) (given : between.count = before.count + 1)
    (kept : between.anchored = before.anchored) : Made before after [node] where
  count := by
    have ascending := made.count
    omega
  numbered part inside other found := by
    have ascending := made.count
    rcases inside_singleton.mp inside with rfl | deeper
    · rw [number] at found
      cases found
      omega
    · have bounds := made.numbered part deeper other found
      omega
  single one two inOne inTwo other found same := by
    -- The numbers of the children are greater.
    rcases inside_singleton.mp inOne with rfl | deepOne <;>
      rcases inside_singleton.mp inTwo with rfl | deepTwo
    · rfl
    · have bounds := made.numbered two deepTwo other same
      rw [number] at found
      cases found
      omega
    · have bounds := made.numbered one deepOne other found
      rw [number] at same
      cases same
      omega
    · exact made.single one two deepOne deepTwo other found same
  anchored entry member := by
    rcases made.anchored entry member with earlier | inside
    · exact .inl (kept ▸ earlier)
    · exact .inr (inside_singleton.mpr (.inr inside))

/-- A node that is made may be given an anchor. -/
theorem complete {node : Node} {number : Nat} (made : Made before between [node])
    (count : after.count = between.count)
    (anchored : after.anchored = between.anchored ∨
      after.anchored = (number, node) :: between.anchored) : Made before after [node] where
  count := by
    have ascending := made.count
    omega
  numbered part inside other found := by
    have bounds := made.numbered part inside other found
    omega
  single := made.single
  anchored entry member := by
    rcases anchored with same | added
    · exact made.anchored entry (same ▸ member)
    · rcases List.mem_cons.mp (added ▸ member) with rfl | earlier
      · exact .inr ⟨node, List.mem_singleton_self node, .self⟩
      · exact made.anchored entry earlier

end Made

end CodeAtlas.Yaml
