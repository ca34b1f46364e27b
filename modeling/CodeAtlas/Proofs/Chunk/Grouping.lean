import CodeAtlas.Chunk.Packing

/-!
# Groups of consecutive items

Grouping and packing read their items once and keep one group open. `group` loses nothing, makes
no empty group and overfills a group only with a single item. A packing makes the same groups, if
an item that is too heavy is taken to weigh nothing: `pack_eq_group` says that each group of `pack`
holds the records of one such group.
-/
namespace CodeAtlas.Chunk

variable {α : Type}

/-- The total of two lists of items is the sum of their totals. -/
theorem total_append (weigh : α → Nat) (front back : List α) :
    total weigh (front ++ back) = total weigh front + total weigh back := by
  induction front with
  | nil => simp [total]
  | cons item front ih =>
    simp only [List.cons_append, total, ih]
    omega

/-- An open group is closed as itself, or not at all if it is empty. -/
theorem close_flatten (opened : List α) : (Packing.close opened).flatten = opened := by
  unfold Packing.close
  split
  · rename_i empty
    exact (List.isEmpty_iff.mp empty).symm
  · exact List.append_nil opened

/-- What is closed is the open group, and that group has items. -/
theorem mem_close {opened closed : List α} (member : closed ∈ Packing.close opened) :
    closed = opened ∧ opened ≠ [] := by
  unfold Packing.close at member
  split at member
  · contradiction
  · rename_i occupied
    exact ⟨List.mem_singleton.mp member, by simpa using occupied⟩

section Grouping

variable (limit : Nat) (weigh : α → Nat)

/-- Grouping keeps every item, in order. -/
theorem groupFrom_flatten (opened : List α) (weight : Nat) (items : List α) :
    (groupFrom limit weigh opened weight items).flatten = opened ++ items := by
  induction items generalizing opened weight with
  | nil => simp [groupFrom, close_flatten]
  | cons item items ih =>
    simp only [groupFrom]
    split
    · rw [List.flatten_cons, ih, List.singleton_append]
    · rw [ih, List.append_assoc, List.singleton_append]

/-- Joining the groups of a list gives the list. -/
theorem group_flatten (items : List α) : (group limit weigh items).flatten = items :=
  groupFrom_flatten limit weigh [] 0 items

/-- No group is empty. -/
theorem groupFrom_nonempty (opened : List α) (weight : Nat) (items : List α) :
    ∀ made ∈ groupFrom limit weigh opened weight items, made ≠ [] := by
  induction items generalizing opened weight with
  | nil =>
    intro made member
    obtain ⟨rfl, occupied⟩ := mem_close member
    exact occupied
  | cons item items ih =>
    intro made member
    simp only [groupFrom] at member
    split at member
    · rename_i full
      rcases List.mem_cons.mp member with rfl | later
      · intro empty
        simp [empty] at full
      · exact ih [item] (weigh item) made later
    · exact ih (opened ++ [item]) (weight + weigh item) made member

/-- A list has no groups exactly if it has no items. -/
theorem group_eq_nil_iff (items : List α) : group limit weigh items = [] ↔ items = [] := by
  constructor
  · intro none
    rw [← group_flatten limit weigh items, none, List.flatten_nil]
  · rintro rfl
    rfl

/-- A group is snug if it fits the limit or holds one item only. -/
def Snug (items : List α) : Prop := total weigh items ≤ limit ∨ ∃ item, items = [item]

/-- A snug group whose items all fit by themselves fits the limit. -/
theorem Snug.total_le {items : List α} (snug : Snug limit weigh items)
    (light : ∀ item ∈ items, weigh item ≤ limit) : total weigh items ≤ limit := by
  rcases snug with fits | ⟨item, rfl⟩
  · exact fits
  · simpa [total] using light item (List.mem_singleton_self item)

/-- Every group is snug: an item joins a group only if it fits there or if the group is empty. -/
theorem groupFrom_snug (opened : List α) (items : List α) (snug : Snug limit weigh opened) :
    ∀ made ∈ groupFrom limit weigh opened (total weigh opened) items, Snug limit weigh made := by
  induction items generalizing opened with
  | nil =>
    intro made member
    obtain ⟨rfl, _⟩ := mem_close member
    exact snug
  | cons item items ih =>
    intro made member
    simp only [groupFrom] at member
    split at member
    · rcases List.mem_cons.mp member with rfl | later
      · exact snug
      · exact ih [item] (.inr ⟨item, rfl⟩) made (by simpa [total] using later)
    · rename_i stays
      -- The item is alone in its group, or was let in because there is room.
      have joined : Snug limit weigh (opened ++ [item]) := by
        by_cases empty : opened = []
        · exact .inr ⟨item, by simp [empty]⟩
        · refine .inl ?_
          have room : total weigh opened + weigh item ≤ limit := by simpa [empty] using stays
          simpa [total_append, total] using room
      refine ih (opened ++ [item]) joined made ?_
      simpa [total_append, total] using member

/-- Every group of a list is snug. -/
theorem group_snug (items : List α) : ∀ made ∈ group limit weigh items, Snug limit weigh made :=
  groupFrom_snug limit weigh [] items (.inl (Nat.zero_le limit))

end Grouping

namespace Packing

variable (packing : Packing α)

/-- The records that stand for an item in its group: the item, or its reduced form. -/
def records (item : α) : List α :=
  if packing.limit < packing.weight item then packing.reduce item else [item]

/-- What an item counts in its group; an item that is too heavy by itself counts nothing. -/
def load (item : α) : Nat :=
  if packing.limit < packing.weight item then 0 else packing.weight item

/-- No item counts more than a group may weigh. -/
theorem load_le (item : α) : packing.load item ≤ packing.limit := by
  unfold load
  split <;> omega

/-- Loads count the items that fit by themselves and no others. -/
theorem total_load (items : List α) :
    total packing.load items =
      total packing.weight (items.filter (packing.weight · ≤ packing.limit)) := by
  induction items with
  | nil => rfl
  | cons item items ih =>
    by_cases heavy : packing.limit < packing.weight item
    · rw [total, ih, List.filter_cons_of_neg (by simpa using heavy)]
      simp [load, heavy]
    · rw [total, ih, List.filter_cons_of_pos (by simpa using heavy), total]
      simp [load, heavy]

/-- The records of items weigh what the items that fit weigh, and what the reduced forms of the
others weigh. -/
theorem total_records (items : List α) :
    total packing.weight (items.flatMap packing.records) =
      total packing.weight (items.filter (packing.weight · ≤ packing.limit)) +
        total packing.weight
          ((items.filter (packing.limit < packing.weight ·)).flatMap packing.reduce) := by
  induction items with
  | nil => rfl
  | cons item items ih =>
    rw [List.flatMap_cons, total_append, ih]
    by_cases heavy : packing.limit < packing.weight item
    · rw [List.filter_cons_of_neg (by simpa using heavy),
        List.filter_cons_of_pos (by simpa using heavy), List.flatMap_cons, total_append]
      simp only [records, if_pos heavy]
      omega
    · rw [List.filter_cons_of_pos (by simpa using heavy),
        List.filter_cons_of_neg (by simpa using heavy), total]
      simp only [records, if_neg heavy, total]
      omega

/-- The groups of the loads of a list load no more than the limit. -/
theorem total_load_le (items : List α) :
    ∀ made ∈ group packing.limit packing.load items, total packing.load made ≤ packing.limit :=
  fun made member => (group_snug packing.limit packing.load items made member).total_le _ _
    fun item _ => packing.load_le item

/-- Reduction leaves something of every item. -/
def Productive : Prop := ∀ item, packing.reduce item ≠ []

variable {packing}

/-- Every item has a record. -/
theorem Productive.records_nonempty (productive : packing.Productive) (item : α) :
    packing.records item ≠ [] := by
  unfold records
  split
  · exact productive item
  · exact List.cons_ne_nil item []

/-- A group has records exactly if it has items. -/
theorem Productive.flatMap_records_isEmpty (productive : packing.Productive) (items : List α) :
    (items.flatMap packing.records).isEmpty = items.isEmpty := by
  cases items with
  | nil => rfl
  | cons item items =>
    have kept := productive.records_nonempty item
    simp [List.flatMap_cons, kept]

/-- Packing after an open group makes the groups of the loads, each with its records. The open
group never loads more than the limit, so an item without load never closes it. -/
theorem Productive.packFrom_eq_groupFrom (productive : packing.Productive) (opened : List α)
    (items : List α) (room : total packing.load opened ≤ packing.limit) :
    packing.packFrom (opened.flatMap packing.records) (total packing.load opened) items =
      (groupFrom packing.limit packing.load opened (total packing.load opened) items).map
        (·.flatMap packing.records) := by
  induction items generalizing opened with
  | nil =>
    simp only [packFrom, groupFrom, close, productive.flatMap_records_isEmpty]
    split <;> rfl
  | cons item items ih =>
    have alone := ih [item]
    have joined := ih (opened ++ [item])
    simp only [List.flatMap_append, List.flatMap_singleton, total_append, total,
      Nat.add_zero] at alone joined
    simp only [packFrom, groupFrom, productive.flatMap_records_isEmpty]
    by_cases heavy : packing.limit < packing.weight item
    -- By `room`, grouping does not close the group before an item without load.
    · have load : packing.load item = 0 := by simp [Packing.load, heavy]
      have reduced : packing.records item = packing.reduce item := by simp [records, heavy]
      rw [load, reduced] at joined
      rw [if_pos heavy, load, if_neg (by simp; omega)]
      exact joined room
    · have load : packing.load item = packing.weight item := by simp [Packing.load, heavy]
      have whole : packing.records item = [item] := by simp [records, heavy]
      rw [load, whole] at alone joined
      rw [if_neg heavy, load]
      split
      · rw [List.map_cons, alone (by omega)]
      · rename_i stays
        refine joined ?_
        cases opened with
        | nil => simpa [total] using heavy
        | cons first opened => simpa using stays

/-- Packing makes the groups of the loads, each with its records. -/
theorem Productive.pack_eq_group (productive : packing.Productive) (items : List α) :
    packing.pack items =
      (group packing.limit packing.load items).map (·.flatMap packing.records) :=
  productive.packFrom_eq_groupFrom [] items (Nat.zero_le packing.limit)

end Packing

end CodeAtlas.Chunk
