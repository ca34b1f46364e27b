/-!
# Packing a list into groups

Items are put into groups in their order. A group takes items as long as their weights fit the
limit. `pack` puts an item that is too heavy by itself, in a reduced form, into the group that is
open, where it counts nothing; `group` gives such an item a group of its own.
-/
namespace CodeAtlas.Chunk

/-- The sum of the weights of items. -/
def total {α : Type} (weigh : α → Nat) : List α → Nat
  | [] => 0
  | item :: items => weigh item + total weigh items

/-- What items weigh, how much fits a group, and what becomes of an item that is too heavy. -/
structure Packing (α : Type) where
  /-- The most that a group may weigh. -/
  limit : Nat
  /-- The weight of an item. -/
  weight : α → Nat
  /-- The reduced form of an item. -/
  reduce : α → List α

namespace Packing

variable {α : Type}

/-- Close an open group, unless it is empty. -/
def close (opened : List α) : List (List α) := if opened.isEmpty then [] else [opened]

/-- Pack items after those of an open group of a weight. -/
def packFrom (packing : Packing α) (opened : List α) (weight : Nat) : List α → List (List α)
  | [] => close opened
  | item :: items =>
    let size := packing.weight item
    if packing.limit < size then
      packing.packFrom (opened ++ packing.reduce item) weight items
    else if packing.limit < weight + size && !opened.isEmpty then
      opened :: packing.packFrom [item] size items
    else packing.packFrom (opened ++ [item]) (weight + size) items

/-- Pack items into groups. -/
def pack (packing : Packing α) (items : List α) : List (List α) := packing.packFrom [] 0 items

end Packing

/-- Group items after those of an open group of a weight. -/
def groupFrom {α : Type} (limit : Nat) (weigh : α → Nat) (opened : List α) (weight : Nat) :
    List α → List (List α)
  | [] => Packing.close opened
  | item :: items =>
    let size := weigh item
    if limit < weight + size && !opened.isEmpty then
      opened :: groupFrom limit weigh [item] size items
    else groupFrom limit weigh (opened ++ [item]) (weight + size) items

/-- Group items so that each group fits the limit or holds one item. -/
def group {α : Type} (limit : Nat) (weigh : α → Nat) (items : List α) : List (List α) :=
  groupFrom limit weigh [] 0 items

end CodeAtlas.Chunk
