import CodeAtlas.Proofs.Chunk.Splitting

/-!
# Grouping as packing

Grouping and packing go through a list in the same way, and differ only in what becomes of an item
that is too heavy by itself. Where there is none they make the same groups, whatever the reduced
form of such an item would be: `packFrom_eq_groupFrom_of_light`. Otherwise a heavy item closes the
group before it and lets nothing into its own, so that grouping packs each run of items between the
heavy ones: `Segmented.group_eq`.
-/
namespace CodeAtlas.Chunk

variable {α : Type}

/-! ## Segments -/

/-- A part of a list: a run of items that fit by themselves, or an item that does not. -/
inductive Segment (α : Type) where
  | run (items : List α)
  | heavy (item : α)
  deriving DecidableEq, Repr

namespace Segment

/-- The items of a segment. -/
def items : Segment α → List α
  | .run items => items
  | .heavy item => [item]

/-- Whether a segment is a run. -/
def isRun : Segment α → Bool
  | .run _ => true
  | .heavy _ => false

/-- A run has items, and they fit a limit by themselves; a heavy item does not. -/
def Genuine (limit : Nat) (weigh : α → Nat) : Segment α → Prop
  | .run items => items ≠ [] ∧ ∀ item ∈ items, weigh item ≤ limit
  | .heavy item => limit < weigh item

/-- The groups of a segment: those of a packed run, or one for a heavy item. -/
def groups (packing : Packing α) : Segment α → List (List α)
  | .run items => packing.pack items
  | .heavy item => [[item]]

/-- Put an item that fits by itself in front of segments. -/
def enter (item : α) : List (Segment α) → List (Segment α)
  | .run items :: later => .run (item :: items) :: later
  | later => .run [item] :: later

end Segment

section Grouping

variable (limit : Nat) (weigh : α → Nat)

/-- A list cut into the maximal runs of items that fit a limit by themselves, and the heavy items
between them. -/
structure Segmented (items : List α) (segments : List (Segment α)) : Prop where
  /-- The segments hold the items in order. -/
  joined : segments.flatMap Segment.items = items
  /-- Runs hold items that fit by themselves; the other segments are items that do not. -/
  genuine : ∀ segment ∈ segments, segment.Genuine limit weigh
  /-- After a run there is a heavy item, or nothing. -/
  maximal : segments.IsChain fun segment next => segment.isRun = true → next.isRun = false

/-- The segments of a list. -/
def segments : List α → List (Segment α)
  | [] => []
  | item :: items =>
    if limit < weigh item then .heavy item :: segments items
    else Segment.enter item (segments items)

variable {limit weigh} {items : List α} {cut : List (Segment α)} {segment : Segment α}

/-- The segments after the first are those of the items after its own. -/
theorem Segmented.tail (segmented : Segmented limit weigh items (segment :: cut)) :
    Segmented limit weigh (cut.flatMap Segment.items) cut where
  joined := rfl
  genuine := (List.forall_mem_cons.mp segmented.genuine).2
  maximal := segmented.maximal.tail

/-- A heavy item is a segment in front of the others. -/
theorem Segmented.heavy (segmented : Segmented limit weigh items cut) {item : α}
    (heavy : limit < weigh item) : Segmented limit weigh (item :: items) (.heavy item :: cut) where
  joined := by rw [List.flatMap_cons, segmented.joined]; rfl
  genuine := List.forall_mem_cons.mpr ⟨heavy, segmented.genuine⟩
  maximal := List.isChain_cons.mpr ⟨fun _ _ run => Bool.noConfusion run, segmented.maximal⟩

/-- An item that fits by itself goes into the run behind it, or begins one. -/
theorem Segmented.enter (segmented : Segmented limit weigh items cut) {item : α}
    (light : weigh item ≤ limit) :
    Segmented limit weigh (item :: items) (Segment.enter item cut) := by
  have alone : (Segment.run [item]).Genuine limit weigh :=
    ⟨List.cons_ne_nil item [], List.forall_mem_singleton.mpr light⟩
  cases cut with
  | nil => exact {
      joined := by rw [← segmented.joined]; rfl
      genuine := List.forall_mem_singleton.mpr alone
      maximal := .singleton _ }
  | cons first later =>
    obtain ⟨genuine, others⟩ := List.forall_mem_cons.mp segmented.genuine
    cases first with
    | run run => exact {
        joined := by rw [← segmented.joined]; rfl
        genuine := List.forall_mem_cons.mpr
          ⟨⟨List.cons_ne_nil item run, List.forall_mem_cons.mpr ⟨light, genuine.2⟩⟩, others⟩
        maximal := by
          obtain ⟨apart, chain⟩ := List.isChain_cons.mp segmented.maximal
          exact List.isChain_cons.mpr ⟨apart, chain⟩ }
    | heavy other => exact {
        joined := by rw [← segmented.joined]; rfl
        genuine := List.forall_mem_cons.mpr ⟨alone, segmented.genuine⟩
        maximal := List.isChain_cons_cons.mpr ⟨fun _ => rfl, segmented.maximal⟩ }

/-- Every list is cut into its segments. -/
theorem segmented_segments (limit : Nat) (weigh : α → Nat) (items : List α) :
    Segmented limit weigh items (segments limit weigh items) := by
  induction items with
  | nil => exact ⟨rfl, List.forall_mem_nil _, .nil⟩
  | cons item items ih =>
    rw [segments]
    split
    · rename_i heavy
      exact ih.heavy heavy
    · rename_i light
      exact ih.enter (Nat.le_of_not_lt light)

/-- An item without weight is a run, also between two heavy ones. -/
example : segments 3 id [2, 9, 0, 4, 1, 3] =
    [.run [2], .heavy 9, .run [0], .heavy 4, .run [1, 3]] := rfl

/-! ## Heavy items in a grouping -/

/-- Nothing is let into an open group that is heavier than the limit. -/
theorem groupFrom_of_full (weigh : α → Nat) {opened : List α} {weight : Nat}
    (occupied : opened ≠ []) (heavy : limit < weight) (items : List α) :
    groupFrom limit weigh opened weight items = opened :: group limit weigh items := by
  cases items with
  | nil => simp [groupFrom, group, Packing.close, occupied]
  | cons item items =>
    have full : limit < weight + weigh item := by omega
    simp [groupFrom, group, full, occupied]

/-- A heavy item closes the group before it and has one of its own. -/
theorem groupFrom_append_heavy {item : α} (heavy : limit < weigh item) (opened : List α)
    (weight : Nat) (front back : List α) :
    groupFrom limit weigh opened weight (front ++ item :: back) =
      groupFrom limit weigh opened weight front ++ [item] :: group limit weigh back := by
  induction front generalizing opened weight with
  | nil =>
    have full : limit < weight + weigh item := by omega
    by_cases empty : opened = []
    · have alone := groupFrom_of_full weigh (List.cons_ne_nil item []) full back
      simpa [groupFrom, Packing.close, empty] using alone
    · have alone := groupFrom_of_full weigh (List.cons_ne_nil item []) heavy back
      simp [groupFrom, Packing.close, empty, full, alone]
  | cons first front ih =>
    simp only [List.cons_append, groupFrom]
    split <;> simp [ih]

/-- A heavy item cuts a grouping in two. -/
theorem group_append_heavy {item : α} (heavy : limit < weigh item) (front back : List α) :
    group limit weigh (front ++ item :: back) =
      group limit weigh front ++ [item] :: group limit weigh back :=
  groupFrom_append_heavy heavy [] 0 front back

/-- A heavy item in front of a list is a group in front of its groups. -/
theorem group_cons_heavy {item : α} (heavy : limit < weigh item) (items : List α) :
    group limit weigh (item :: items) = [item] :: group limit weigh items :=
  group_append_heavy heavy [] items

end Grouping

/-! ## Grouping and packing -/

/-- Without heavy items packing makes the groups that grouping makes: the reduced form of an item
is never asked for. -/
theorem packFrom_eq_groupFrom_of_light (packing : Packing α) {items : List α}
    (light : ∀ item ∈ items, packing.weight item ≤ packing.limit) (opened : List α) (weight : Nat) :
    packing.packFrom opened weight items =
      groupFrom packing.limit packing.weight opened weight items := by
  induction items generalizing opened weight with
  | nil => rfl
  | cons item items ih =>
    obtain ⟨fits, others⟩ := List.forall_mem_cons.mp light
    rw [Packing.packFrom, groupFrom, if_neg (Nat.not_lt.mpr fits)]
    simp only [ih others]

/-- Grouping packs the runs of a list and leaves its heavy items alone. -/
theorem Segmented.group_eq (packing : Packing α) {items : List α} {cut : List (Segment α)}
    (segmented : Segmented packing.limit packing.weight items cut) :
    group packing.limit packing.weight items = cut.flatMap (Segment.groups packing) := by
  induction cut generalizing items with
  | nil =>
    obtain rfl := segmented.joined
    rfl
  | cons segment cut ih =>
    have others := ih segmented.tail
    obtain rfl := segmented.joined
    obtain ⟨genuine, _⟩ := List.forall_mem_cons.mp segmented.genuine
    rw [List.flatMap_cons, List.flatMap_cons]
    cases segment with
    | heavy item =>
      have alone := group_cons_heavy genuine (cut.flatMap Segment.items)
      rw [others] at alone
      exact alone
    | run run =>
      have packed : packing.pack run = group packing.limit packing.weight run :=
        packFrom_eq_groupFrom_of_light packing genuine.2 [] 0
      -- A run ends with the list or at a heavy item, which begins groups of its own.
      cases cut with
      | nil => simp [Segment.items, Segment.groups, packed]
      | cons next later =>
        obtain ⟨apart, _⟩ := List.isChain_cons_cons.mp segmented.maximal
        cases next with
        | run other => exact absurd (apart rfl) Bool.noConfusion
        | heavy item =>
          have heavy : packing.limit < packing.weight item :=
            segmented.tail.genuine _ List.mem_cons_self
          have apart := group_append_heavy heavy run (later.flatMap Segment.items)
          rw [← group_cons_heavy heavy, ← packed] at apart
          rw [← others]
          exact apart

end CodeAtlas.Chunk

namespace CodeAtlas.Chunker

open Chunk

variable (chunker : Chunker) (budget : Budget)

/-- How methods would be packed, for any reduced form of those that do not fit. -/
def methodPacking (reduce : Function → List Function) : Packing Function :=
  { chunker.functionPacking budget with reduce }

/-- Methods that fit by themselves are grouped as they would be packed, and in general the methods
of a class are grouped by packing each maximal run of those that fit and leaving the others
alone. -/
theorem methods_grouped_as_packed (reduce : Function → List Function) (methods : List Function) :
    ((∀ method ∈ methods, chunker.functionSize method ≤ budget.units) →
      group budget.units chunker.functionSize methods =
        (chunker.methodPacking budget reduce).pack methods) ∧
    (∃ cut, Segmented budget.units chunker.functionSize methods cut) ∧
    ∀ cut, Segmented budget.units chunker.functionSize methods cut →
      group budget.units chunker.functionSize methods =
        cut.flatMap (Segment.groups (chunker.methodPacking budget reduce)) := by
  refine ⟨fun light => ?_, ⟨_, segmented_segments _ _ methods⟩, fun cut segmented => ?_⟩
  · exact (packFrom_eq_groupFrom_of_light (chunker.methodPacking budget reduce) light [] 0).symm
  · exact segmented.group_eq (chunker.methodPacking budget reduce)

/-- A chunker to which methods without bodies are as large as their names are longer than one
character. -/
def nameCounter : Chunker := ⟨.standard, fun text => text.length - 119⟩

/-- Methods with short names, before and after one with a long name. -/
def namedSegments : List (Segment Function) :=
  [.run [bareMethod "d"], .heavy (bareMethod "eee"), .run (["a", "bb", "cc"].map bareMethod)]

/-- Methods whose names have one or two characters are packed, before and after one whose name has
three. -/
theorem methods_grouped_as_packed_namedSegments :
    (∀ method ∈ ["a", "bb", "cc"].map bareMethod, nameCounter.functionSize method ≤ 1) ∧
    group 1 nameCounter.functionSize (["a", "bb", "cc"].map bareMethod) =
      (nameCounter.methodPacking ⟨1, by decide⟩ fun _ => []).pack
        (["a", "bb", "cc"].map bareMethod) ∧
    Segmented 1 nameCounter.functionSize (namedSegments.flatMap Segment.items) namedSegments ∧
    group 1 nameCounter.functionSize (namedSegments.flatMap Segment.items) =
      namedSegments.flatMap
        (Segment.groups (nameCounter.methodPacking ⟨1, by decide⟩ fun _ => [])) := by
  have size (name : String) : nameCounter.functionSize (bareMethod name) =
      ((bareMethod name).toJson.write .compact 0).length - 119 := by
    rw [← sizeOf_length]
    rfl
  have light : ∀ method ∈ ["a", "bb", "cc"].map bareMethod,
      nameCounter.functionSize method ≤ 1 := by
    simp only [List.map_cons, List.map_nil, List.forall_mem_cons, size]
    decide +kernel
  have first : nameCounter.functionSize (bareMethod "d") ≤ 1 := by
    rw [size]
    decide +kernel
  have heavy : 1 < nameCounter.functionSize (bareMethod "eee") := by
    rw [size]
    decide +kernel
  have segmented :
      Segmented 1 nameCounter.functionSize (namedSegments.flatMap Segment.items) namedSegments := by
    refine ⟨rfl, ?_, by decide⟩
    simp only [namedSegments, List.forall_mem_cons]
    exact ⟨⟨nofun, List.forall_mem_singleton.mpr first⟩, heavy, ⟨nofun, light⟩,
      List.forall_mem_nil _⟩
  refine ⟨light, ?_, segmented, ?_⟩
  · exact (nameCounter.methods_grouped_as_packed ⟨1, by decide⟩ _ _).1 light
  · exact (nameCounter.methods_grouped_as_packed ⟨1, by decide⟩ _ _).2.2 _ segmented

end CodeAtlas.Chunker
