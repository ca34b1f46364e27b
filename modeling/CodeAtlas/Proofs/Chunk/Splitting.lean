import CodeAtlas.Proofs.Chunk.Fewest
import Mathlib.Algebra.Order.Floor.Div

/-!
# Large classes

A class that does not fit a budget by itself, and has methods, comes out as partial records. They
stand together in one chunk, share the methods out in order, are numbered to the last, and are as
few as the methods allow: `large_class_split`.
-/
namespace CodeAtlas

namespace Chunk

variable {α : Type}

/-- An item of a list of blocks stands in one of them. -/
theorem exists_block {blocks : List (List α)} {before after : List α} {item : α}
    (same : blocks.flatten = before ++ item :: after) :
    ∃ earlier front back later, blocks = earlier ++ (front ++ item :: back) :: later ∧
      earlier.flatten ++ front = before ∧ back ++ later.flatten = after := by
  rcases List.flatten_eq_append_iff.mp same with
    ⟨earlier, others, rfl, rfl, tail⟩ | ⟨earlier, front, next, back, later, rfl, rfl, tail⟩
  · obtain ⟨empty, back, later, rfl, blank, rfl⟩ := List.flatten_eq_cons_iff.mp tail.symm
    refine ⟨earlier ++ empty, [], back, later, by simp, ?_, rfl⟩
    rw [List.flatten_append, List.flatten_eq_nil_iff.mpr blank, List.append_nil, List.append_nil]
  · obtain ⟨rfl, rfl⟩ := List.cons.inj tail
    exact ⟨earlier, front, back, later, rfl, rfl, rfl⟩

/-- A group is snug exactly if it fits the limit or is one item that does not fit by itself. -/
theorem snug_iff {limit : Nat} {weigh : α → Nat} {items : List α} :
    Snug limit weigh items ↔
      total weigh items ≤ limit ∨ ∃ item, items = [item] ∧ limit < weigh item := by
  constructor
  · rintro (fits | ⟨item, rfl⟩)
    · exact .inl fits
    · by_cases heavy : limit < weigh item
      · exact .inr ⟨item, rfl, heavy⟩
      · exact .inl (by simpa [total] using heavy)
  · rintro (fits | ⟨item, alone, _⟩)
    · exact .inl fits
    · exact .inr ⟨item, alone⟩

/-- The partial records for groups of methods hold these groups. -/
theorem map_methods_partsFrom (cls : Class) (count part : Nat) (groups : List (List Function)) :
    (partsFrom cls count part groups).map (·.methods) = groups := by
  induction groups generalizing part with
  | nil => rfl
  | cons methods groups ih => rw [partsFrom, List.map_cons, ih]

/-- If all items fit by themselves, the number of groups is between the number of limits that the
items weigh and twice that number. -/
theorem length_group_bounds {limit : Nat} {weigh : α → Nat} {items : List α} (positive : 0 < limit)
    (light : ∀ item ∈ items, weigh item ≤ limit) (loaded : 1 ≤ total weigh items) :
    total weigh items ⌈/⌉ limit ≤ (group limit weigh items).length ∧
      (group limit weigh items).length ≤ 2 * (total weigh items ⌈/⌉ limit) - 1 := by
  have joined := group_flatten limit weigh items
  constructor
  · rw [ceilDiv_le_iff_le_mul positive]
    have fits : ∀ made ∈ group limit weigh items, total weigh made ≤ limit := by
      intro made member
      refine (group_snug limit weigh items made member).total_le limit weigh fun item inside => ?_
      exact light item (joined ▸ List.mem_flatten_of_mem member inside)
    simpa only [joined] using total_flatten_le fits
  · have halves := (group_brimming limit weigh items).half_length_mul_le
    rw [joined] at halves
    have covered : total weigh items ≤ limit * (total weigh items ⌈/⌉ limit) :=
      (ceilDiv_le_iff_le_mul positive).mp (Nat.le_refl _)
    generalize total weigh items ⌈/⌉ limit = count at covered ⊢
    by_contra many
    have half : count ≤ (group limit weigh items).length / 2 := by omega
    -- So many groups, two by two, would weigh more than there is.
    have heavy : count * (limit + 1) ≤ limit * count :=
      calc
        count * (limit + 1) ≤ (group limit weigh items).length / 2 * (limit + 1) :=
          Nat.mul_le_mul_right _ half
        _ ≤ total weigh items := halves
        _ ≤ limit * count := covered
    rw [Nat.mul_succ, Nat.mul_comm] at heavy
    have none : count = 0 := by omega
    rw [none] at covered
    omega

end Chunk

open Chunk

namespace Chunker

variable (chunker : Chunker) (budget : Budget)

/-- Records stand together in one chunk, between earlier records and later ones. -/
def Together (chunks : List Analysis) (before records after : List Class) : Prop :=
  ∃ earlier front back later,
    chunks = earlier ++ ⟨[], front ++ records ++ back⟩ :: later ∧
      earlier.flatMap (·.classes) ++ front = before ∧
      back ++ later.flatMap (·.classes) = after

/-- The partial records that a large class comes out as. -/
structure Shared (cls : Class) (records : List Class) : Prop where
  /-- There is a record. -/
  exists_record : records ≠ []
  /-- Each record is the class but for its methods and a note of its number. -/
  numbered : ∀ (index : Nat) (record : Class), records[index]? = some record →
    record = { cls with
      methods := record.methods
      note := some ("Part " ++ toString (index + 1) ++ "/" ++ toString records.length ++
        " of large class") }
  /-- Each record has methods. -/
  occupied : ∀ record ∈ records, record.methods ≠ []
  /-- The records hold the methods in order. -/
  methods : records.flatMap (·.methods) = cls.methods
  /-- The methods of a record fit the budget, unless it is one that does not fit by itself. -/
  snug : ∀ record ∈ records, total chunker.functionSize record.methods ≤ budget.units ∨
    ∃ method, record.methods = [method] ∧ budget.units < chunker.functionSize method
  /-- Any other way to cut the methods into such blocks makes as many or more. -/
  fewest : ∀ blocks : List (List Function), blocks.flatten = cls.methods →
    (∀ block ∈ blocks, total chunker.functionSize block ≤ budget.units ∨
      ∃ method, block = [method] ∧ budget.units < chunker.functionSize method) →
    records.length ≤ blocks.length
  /-- Methods that fit by themselves need as many records as budgets, and less than twice as
  many. -/
  bounds : (∀ method ∈ cls.methods, chunker.functionSize method ≤ budget.units) →
    1 ≤ total chunker.functionSize cls.methods →
    total chunker.functionSize cls.methods ⌈/⌉ budget.units ≤ records.length ∧
      records.length ≤ 2 * (total chunker.functionSize cls.methods ⌈/⌉ budget.units) - 1

/-- The partial records of a class with methods are those for the groups of its methods. -/
theorem split_eq_partsFrom {cls : Class} (occupied : cls.methods ≠ []) :
    chunker.split budget cls =
      partsFrom cls (group budget.units chunker.functionSize cls.methods).length 1
        (group budget.units chunker.functionSize cls.methods) := by
  have grouped : group budget.units chunker.functionSize cls.methods ≠ [] :=
    fun none => occupied ((group_eq_nil_iff _ _ _).mp none)
  simp only [split, List.isEmpty_iff, if_neg grouped]

/-- A class with methods is shared out among its partial records. -/
theorem shared_split {cls : Class} (occupied : cls.methods ≠ []) :
    chunker.Shared budget cls (chunker.split budget cls) := by
  have records := chunker.split_eq_partsFrom budget occupied
  have grouped : (chunker.split budget cls).map (·.methods) =
      group budget.units chunker.functionSize cls.methods := by
    rw [records, map_methods_partsFrom]
  have count : (chunker.split budget cls).length =
      (group budget.units chunker.functionSize cls.methods).length := by
    rw [← grouped, List.length_map]
  have holds : ∀ record ∈ chunker.split budget cls,
      record.methods ∈ group budget.units chunker.functionSize cls.methods :=
    fun record member => grouped ▸ List.mem_map_of_mem member
  exact {
    exists_record := chunker.split_nonempty budget cls
    numbered := by
      intro index record here
      rw [records, partsFrom_eq_mapIdx, List.getElem?_mapIdx] at here
      obtain ⟨methods, _, rfl⟩ := Option.map_eq_some_iff.mp here
      rw [count]
      rfl
    occupied := fun record member =>
      groupFrom_nonempty _ _ [] 0 cls.methods record.methods (holds record member)
    methods := by rw [List.flatMap_def, grouped, group_flatten]
    snug := fun record member =>
      snug_iff.mp (group_snug _ _ cls.methods record.methods (holds record member))
    fewest := by
      intro blocks joined snug
      rw [count]
      exact length_group_le joined fun block member => snug_iff.mpr (snug block member)
    bounds := by
      intro light loaded
      rw [count]
      exact length_group_bounds budget.positive light loaded }

/-- The records of a class stand together in one chunk, between those of the classes before it and
those of the classes after it. -/
theorem together_classRecords (analysis : Analysis) {before after : List Class} {cls : Class}
    (placed : analysis.classes = before ++ cls :: after) :
    Together (chunker.chunkWithin budget analysis) (before.flatMap (chunker.classRecords budget))
      (chunker.classRecords budget cls) (after.flatMap (chunker.classRecords budget)) := by
  have joined : (chunker.classBlocks budget analysis.classes).flatten = before ++ cls :: after := by
    rw [classBlocks, group_flatten, placed]
  obtain ⟨earlier, front, back, later, blocks, rfl, rfl⟩ := exists_block joined
  have found : analysis.isEmpty = false := by simp [Analysis.isEmpty, placed]
  have chunks : chunker.chunkWithin budget analysis =
      (chunker.stretches budget analysis).map (chunker.records budget) := by
    rw [chunkWithin_eq_records, origins, found, if_neg Bool.false_ne_true]
  have records : (chunker.classPacking budget).records = chunker.classRecords budget := rfl
  have classes (blocks : List (List Class)) :
      (blocks.map fun block =>
        (⟨[], block.flatMap (chunker.classRecords budget)⟩ : Analysis)).flatMap (·.classes) =
          blocks.flatten.flatMap (chunker.classRecords budget) := by
    rw [List.flatMap_map, List.flatten_eq_flatMap, List.flatMap_assoc]
    rfl
  rw [chunks, map_records_stretches, blocks, records]
  refine ⟨(chunker.functionBlocks budget analysis.functions).map
      (fun block => ⟨block.flatMap (chunker.functionPacking budget).records, []⟩) ++
        earlier.map (fun block => ⟨[], block.flatMap (chunker.classRecords budget)⟩),
    front.flatMap (chunker.classRecords budget), back.flatMap (chunker.classRecords budget),
    later.map (fun block => ⟨[], block.flatMap (chunker.classRecords budget)⟩), ?_, ?_, ?_⟩
  · simp
  · rw [List.flatMap_append, classes, List.flatMap_append, List.flatMap_map,
      List.flatMap_eq_nil_iff.mpr fun _ _ => rfl, List.nil_append]
  · rw [classes, List.flatMap_append]

/-- A class that is too large and has methods comes out as partial records that stand together and
share its methods out as sparingly as can be. -/
theorem large_class_split (analysis : Analysis) {before after : List Class} {cls : Class}
    (placed : analysis.classes = before ++ cls :: after)
    (large : budget.units < chunker.classSize cls) (occupied : cls.methods ≠ []) :
    ∃ chunks records, chunker.Yields budget analysis chunks ∧
      Together chunks (before.flatMap (chunker.classRecords budget)) records
        (after.flatMap (chunker.classRecords budget)) ∧
      chunker.Shared budget cls records := by
  have split : chunker.classRecords budget cls = chunker.split budget cls := if_pos large
  refine ⟨_, chunker.split budget cls, chunker.yields_chunkWithin budget analysis, ?_,
    chunker.shared_split budget occupied⟩
  rw [← split]
  exact chunker.together_classRecords budget analysis placed

/-- Counting characters counts those that are written. -/
theorem sizeOf_length (json : Json) :
    sizeOf String.length json = (json.write .compact 0).length :=
  String.length_ofList

/-- A chunker that counts characters. -/
def characters : Chunker := ⟨.standard, String.length⟩

/-- A method without a body. -/
def bareMethod (name : String) : Function := ⟨name, [], "any", none, "", ⟨"a.ts", 1, 1⟩⟩

/-- A class with methods of equal size. -/
def methodsClass (name : String) (methods : List String) : Class :=
  ⟨name, methods.map bareMethod, [], "", ⟨"a.ts", 1, 3⟩, none⟩

/-- Three methods of 119 characters each come out as two records in a budget of 240. -/
theorem large_class_split_methodsClass :
    ∃ chunks records,
      characters.Yields ⟨240, by decide⟩
        ⟨[], [methodsClass "B" [], methodsClass "C" ["f", "g", "h"]]⟩ chunks ∧
      Together chunks ([methodsClass "B" []].flatMap (characters.classRecords ⟨240, by decide⟩))
        records [] ∧
      characters.Shared ⟨240, by decide⟩ (methodsClass "C" ["f", "g", "h"]) records ∧
      records.length = 2 := by
  have placed : (⟨[], [methodsClass "B" [], methodsClass "C" ["f", "g", "h"]]⟩ : Analysis).classes =
      [methodsClass "B" []] ++ methodsClass "C" ["f", "g", "h"] :: [] :=
    rfl
  have large : 240 < characters.classSize (methodsClass "C" ["f", "g", "h"]) := by
    rw [classSize, characters, sizeOf_length]
    decide +kernel
  obtain ⟨chunks, records, yields, together, shared⟩ :=
    characters.large_class_split ⟨240, by decide⟩ _ placed large nofun
  refine ⟨chunks, records, yields, together, shared, ?_⟩
  -- Of the size of a method only its value is used, so that it is measured once.
  have sums (size : Function → Nat) (f : size (bareMethod "f") = 119)
      (g : size (bareMethod "g") = 119) (h : size (bareMethod "h") = 119) :
      total size (methodsClass "C" ["f", "g", "h"]).methods = 357 ∧
        (∀ method ∈ (methodsClass "C" ["f", "g", "h"]).methods, size method ≤ 240) ∧
        ∀ block ∈ [[bareMethod "f", bareMethod "g"], [bareMethod "h"]],
          total size block ≤ 240 := by
    simp [methodsClass, total, f, g, h]
  obtain ⟨f, g, h⟩ : characters.functionSize (bareMethod "f") = 119 ∧
      characters.functionSize (bareMethod "g") = 119 ∧
      characters.functionSize (bareMethod "h") = 119 := by
    simp only [functionSize, characters, sizeOf_length]
    decide +kernel
  obtain ⟨weight, light, pair⟩ := sums characters.functionSize f g h
  have bounds := shared.bounds light (by rw [weight]; decide)
  have fewest : records.length ≤ 2 :=
    shared.fewest [[bareMethod "f", bareMethod "g"], [bareMethod "h"]] rfl
      fun block member => .inl (pair block member)
  rw [weight] at bounds
  have least : 2 ≤ records.length := bounds.1
  omega

end Chunker

end CodeAtlas
