import CodeAtlas.Proofs.Chunk.Coverage
import Mathlib.Data.List.Chain

/-!
# The fewest groups

Grouping closes a group only before an item that has no room in it. However else a list is cut into
consecutive snug groups, each of those groups ends at most one that grouping made, so grouping
makes the fewest: `length_le_of_brimming`. Two neighbouring groups are more than the limit together,
which bounds their number by the weight of the list. For packings, and so for chunks, the same holds
of loads: `chunk_fewest`.
-/
namespace CodeAtlas.Chunk

variable {α : Type}

section Grouping

variable (limit : Nat) (weigh : α → Nat)

/-- A group has no room for the first item of the next. -/
def Brims (made next : List α) : Prop :=
  ∃ first rest, next = first :: rest ∧ limit < total weigh made + weigh first

/-- Every group has no room for the first item of the next. -/
def Brimming (groups : List (List α)) : Prop := groups.IsChain (Brims limit weigh)

/-- The first group begins with the items of the open group. -/
theorem groupFrom_head (opened : List α) (weight : Nat) (items : List α) (occupied : opened ≠ []) :
    ∃ more others, groupFrom limit weigh opened weight items = (opened ++ more) :: others := by
  induction items generalizing opened weight with
  | nil => exact ⟨[], [], by simp [groupFrom, Packing.close, occupied]⟩
  | cons item items ih =>
    simp only [groupFrom]
    split
    · exact ⟨[], _, by rw [List.append_nil]⟩
    · obtain ⟨more, others, made⟩ :=
        ih (opened ++ [item]) (weight + weigh item)
          (List.append_ne_nil_of_right_ne_nil _ (List.cons_ne_nil _ _))
      exact ⟨item :: more, others, by rw [made, List.append_assoc, List.singleton_append]⟩

/-- A group is closed only before an item that has no room in it. -/
theorem groupFrom_brimming (opened items : List α) :
    Brimming limit weigh (groupFrom limit weigh opened (total weigh opened) items) := by
  induction items generalizing opened with
  | nil =>
    simp only [groupFrom, Packing.close]
    split
    · exact .nil
    · exact .singleton opened
  | cons item items ih =>
    have alone := ih [item]
    have joined := ih (opened ++ [item])
    simp only [total_append, total, Nat.add_zero] at alone joined
    simp only [groupFrom]
    split
    · rename_i full
      obtain ⟨more, others, made⟩ :=
        groupFrom_head limit weigh [item] (weigh item) items (List.cons_ne_nil _ _)
      rw [made] at alone ⊢
      have tight : limit < total weigh opened + weigh item := by
        simp only [Bool.and_eq_true, decide_eq_true_eq] at full
        exact full.1
      exact List.isChain_cons_cons.mpr ⟨⟨item, more, rfl, tight⟩, alone⟩
    · exact joined

/-- The groups of a list leave no room. -/
theorem group_brimming (items : List α) : Brimming limit weigh (group limit weigh items) :=
  groupFrom_brimming limit weigh [] items

variable {limit weigh}

/-- A snug group that goes on after some items has room for them and the next one. -/
theorem Snug.room {front made back : List α} {item : α} (occupied : made ≠ [])
    (snug : Snug limit weigh (front ++ made ++ item :: back)) :
    total weigh made + weigh item ≤ limit := by
  rcases snug with fits | ⟨only, alone⟩
  · simp only [total_append, total] at fits
    omega
  · have lengths := congrArg List.length alone
    have positive := List.length_pos_of_ne_nil occupied
    simp only [List.length_append, List.length_cons, List.length_nil] at lengths
    omega

/-- A snug part of a list ends no more than one of the brimming groups that follow. -/
theorem Snug.passes {part later rest : List α} {groups : List (List α)}
    (snug : Snug limit weigh part) (brimming : Brimming limit weigh groups)
    (occupied : ∀ made ∈ groups, made ≠ []) (same : part ++ later = rest ++ groups.flatten) :
    ∃ rest', later = rest' ++ groups.tail.flatten := by
  cases groups with
  | nil => exact ⟨later, by simp⟩
  | cons made others =>
    rw [List.flatten_cons, ← List.append_assoc] at same
    rcases List.append_eq_append_iff.mp same with ⟨rest', _, left⟩ | ⟨excess, longer, left⟩
    · exact ⟨rest', left⟩
    -- The part goes past the end of the first group: it must end there, for want of room.
    · cases excess with
      | nil => exact ⟨[], left.symm⟩
      | cons item excess =>
        exfalso
        cases others with
        | nil => simp at left
        | cons next others =>
          obtain ⟨⟨first, more, rfl, tight⟩, _⟩ := List.isChain_cons_cons.mp brimming
          rw [List.flatten_cons, List.cons_append, List.cons_append, List.cons.injEq] at left
          obtain ⟨rfl, _⟩ := left
          rw [longer] at snug
          have room := snug.room (occupied made List.mem_cons_self)
          omega

/-- No way to cut a list into consecutive snug parts makes fewer than brimming groups. -/
theorem length_le_of_brimming {groups parts : List (List α)} (rest : List α)
    (brimming : Brimming limit weigh groups) (occupied : ∀ made ∈ groups, made ≠ [])
    (snug : ∀ part ∈ parts, Snug limit weigh part)
    (same : parts.flatten = rest ++ groups.flatten) : groups.length ≤ parts.length := by
  induction parts generalizing groups rest with
  | nil =>
    cases groups with
    | nil => exact Nat.le_refl 0
    | cons made others =>
      have empty : made = [] := by simp_all
      exact absurd empty (occupied made List.mem_cons_self)
  | cons part parts ih =>
    obtain ⟨rest', left⟩ := (snug part List.mem_cons_self).passes brimming occupied same
    have others := ih rest' brimming.tail
      (fun made member => occupied made (List.mem_of_mem_tail member))
      (fun other member => snug other (List.mem_cons_of_mem _ member)) left
    rw [List.length_tail] at others
    rw [List.length_cons]
    omega

/-- Grouping makes the fewest snug groups. -/
theorem length_group_le {items : List α} {parts : List (List α)} (joined : parts.flatten = items)
    (snug : ∀ part ∈ parts, Snug limit weigh part) :
    (group limit weigh items).length ≤ parts.length :=
  length_le_of_brimming [] (group_brimming limit weigh items)
    (groupFrom_nonempty limit weigh [] 0 items) snug
    (by rw [joined, List.nil_append, group_flatten])

/-- Every two neighbouring brimming groups weigh more than the limit. -/
theorem Brimming.half_length_mul_le {groups : List (List α)}
    (brimming : Brimming limit weigh groups) :
    groups.length / 2 * (limit + 1) ≤ total weigh groups.flatten := by
  induction groups using List.twoStepInduction with
  | nil => simp
  | singleton made => simp
  | cons_cons made next groups ih _ =>
    obtain ⟨⟨first, more, rfl, tight⟩, others⟩ := List.isChain_cons_cons.mp brimming
    have later := ih others.tail
    have halves : ((first :: more) :: groups).length.succ / 2 = groups.length / 2 + 1 := by
      simp only [List.length_cons]
      omega
    rw [List.length_cons, halves, Nat.add_mul]
    simp only [List.flatten_cons, total_append, total]
    omega

/-- Groups within the limit weigh no more than the limit for each of them. -/
theorem total_flatten_le {groups : List (List α)}
    (fits : ∀ made ∈ groups, total weigh made ≤ limit) :
    total weigh groups.flatten ≤ limit * groups.length := by
  induction groups with
  | nil => exact Nat.zero_le _
  | cons made groups ih =>
    have first := fits made List.mem_cons_self
    have others := ih fun other member => fits other (List.mem_cons_of_mem _ member)
    rw [List.flatten_cons, total_append, List.length_cons, Nat.mul_succ]
    omega

end Grouping

namespace Packing

variable (packing : Packing α)

/-- Items cut into blocks whose records share a group: no more blocks than their loads call for. -/
structure Thrifty (items : List α) (blocks : List (List α)) : Prop where
  /-- The blocks hold the items in order. -/
  joined : blocks.flatten = items
  /-- Each block has items. -/
  occupied : ∀ block ∈ blocks, block ≠ []
  /-- No block loads more than the limit. -/
  fits : ∀ block ∈ blocks, total packing.load block ≤ packing.limit
  /-- Any other way to cut the items into parts within the limit makes as many parts or more. -/
  fewest : ∀ parts : List (List α), parts.flatten = items →
    (∀ part ∈ parts, total packing.load part ≤ packing.limit) → blocks.length ≤ parts.length
  /-- Each further block begins with an item that stays whole and that the block before it has no
  room for. -/
  tight : blocks.IsChain fun made next => ∃ first rest, next = first :: rest ∧
    packing.weight first ≤ packing.limit ∧ packing.records first = [first] ∧
    packing.limit < total packing.load made + packing.load first

/-- An item with a load stays whole. -/
theorem records_of_load_pos {item : α} (loads : 0 < packing.load item) :
    packing.weight item ≤ packing.limit ∧ packing.records item = [item] := by
  have light : ¬packing.limit < packing.weight item := by
    intro heavy
    simp [load, heavy] at loads
  exact ⟨Nat.le_of_not_lt light, if_neg light⟩

/-- The groups of the loads of a list are thrifty. -/
theorem group_thrifty (items : List α) :
    packing.Thrifty items (group packing.limit packing.load items) where
  joined := group_flatten _ _ items
  occupied := groupFrom_nonempty _ _ [] 0 items
  fits := packing.total_load_le items
  fewest := fun _ joined fits => length_group_le joined fun part member => .inl (fits part member)
  tight := by
    refine (group_brimming packing.limit packing.load items).imp_of_mem_imp ?_
    rintro made _ here _ ⟨first, rest, rfl, full⟩
    have fits := packing.total_load_le items made here
    have loads : 0 < packing.load first := by omega
    obtain ⟨light, whole⟩ := packing.records_of_load_pos loads
    exact ⟨first, rest, rfl, light, whole, full⟩

/-- The reduced form of an item that is too heavy stays in the open group and takes no room. -/
example : (⟨3, id, fun _ => [0]⟩ : Packing Nat).pack [2, 9, 1, 2, 9] = [[2, 0, 1], [2, 0]] := rfl

end Packing

end CodeAtlas.Chunk

namespace CodeAtlas.Chunker

open Chunk

variable (chunker : Chunker) (budget : Budget)

/-- Each stretch gives a chunk with the records of its entities of one kind. -/
theorem map_records_stretches (analysis : Analysis) :
    (chunker.stretches budget analysis).map (chunker.records budget) =
      ((chunker.functionBlocks budget analysis.functions).map fun block =>
        ⟨block.flatMap (chunker.functionPacking budget).records, []⟩) ++
      (chunker.classBlocks budget analysis.classes).map fun block =>
        ⟨[], block.flatMap (chunker.classPacking budget).records⟩ := by
  simp only [stretches, List.map_append, List.map_map, functionPacking_records]
  rfl

/-- Where empty chunks are dropped, only the chunks of stretches are left: the chunk of an analysis
that found nothing is empty. -/
theorem filter_chunkWithin (keep : Analysis → Bool) (drops : keep .empty = false)
    (analysis : Analysis) :
    (chunker.chunkWithin budget analysis).filter keep =
      ((chunker.stretches budget analysis).map (chunker.records budget)).filter keep := by
  rw [chunkWithin_eq_records, origins]
  split
  · rename_i nothing
    rw [(chunker.stretches_eq_nil_iff budget analysis).mpr nothing,
      Analysis.isEmpty_iff.mp nothing]
    exact List.filter_cons_of_neg (Bool.not_eq_true _ ▸ drops)
  · rfl

/-- The chunks with functions hold the records of the blocks of functions. -/
theorem filter_functions_chunkWithin (analysis : Analysis) :
    (chunker.chunkWithin budget analysis).filter (!·.functions.isEmpty) =
      (chunker.functionBlocks budget analysis.functions).map fun block =>
        ⟨block.flatMap (chunker.functionPacking budget).records, []⟩ := by
  rw [filter_chunkWithin chunker budget _ rfl, map_records_stretches, List.filter_append,
    List.filter_eq_self.mpr, List.filter_eq_nil_iff.mpr, List.append_nil]
  · intro chunk member
    obtain ⟨block, _, rfl⟩ := List.mem_map.mp member
    simp
  · intro chunk member
    obtain ⟨block, source, rfl⟩ := List.mem_map.mp member
    rw [(chunker.functionPacking_productive budget).flatMap_records_isEmpty]
    simpa using groupFrom_nonempty _ _ [] 0 analysis.functions block source

/-- The chunks with classes hold the records of the blocks of classes. -/
theorem filter_classes_chunkWithin (analysis : Analysis) :
    (chunker.chunkWithin budget analysis).filter (!·.classes.isEmpty) =
      (chunker.classBlocks budget analysis.classes).map fun block =>
        ⟨[], block.flatMap (chunker.classPacking budget).records⟩ := by
  rw [filter_chunkWithin chunker budget _ rfl, map_records_stretches, List.filter_append,
    List.filter_eq_nil_iff.mpr, List.filter_eq_self.mpr, List.nil_append]
  · intro chunk member
    obtain ⟨block, source, rfl⟩ := List.mem_map.mp member
    rw [(chunker.classPacking_productive budget).flatMap_records_isEmpty]
    simpa using groupFrom_nonempty _ _ [] 0 analysis.classes block source
  · intro chunk member
    obtain ⟨block, _, rfl⟩ := List.mem_map.mp member
    simp

/-- Chunks are as few as they can be: those of each kind hold the records of a thrifty cut of the
entities of that kind. -/
theorem chunk_fewest (analysis : Analysis) :
    ∃ chunks, chunker.Yields budget analysis chunks ∧
      (∃ blocks, (chunker.functionPacking budget).Thrifty analysis.functions blocks ∧
        chunks.filter (!·.functions.isEmpty) = blocks.map fun block =>
          ⟨block.flatMap (chunker.functionPacking budget).records, []⟩) ∧
      ∃ blocks, (chunker.classPacking budget).Thrifty analysis.classes blocks ∧
        chunks.filter (!·.classes.isEmpty) = blocks.map fun block =>
          ⟨[], block.flatMap (chunker.classPacking budget).records⟩ :=
  ⟨_, chunker.yields_chunkWithin budget analysis,
    ⟨_, (chunker.functionPacking budget).group_thrifty analysis.functions,
      chunker.filter_functions_chunkWithin budget analysis⟩,
    _, (chunker.classPacking budget).group_thrifty analysis.classes,
      chunker.filter_classes_chunkWithin budget analysis⟩

end CodeAtlas.Chunker
