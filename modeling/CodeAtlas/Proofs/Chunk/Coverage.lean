import CodeAtlas.Chunk.Chunker
import CodeAtlas.Proofs.Chunk.Grouping

/-!
# Chunks cover their analysis

Each chunk holds the records of one stretch of the analysis, its origin; the origins joined are the
analysis. `chunkWithin_eq_records` says so, and everything that chunks keep follows from it:
`chunk_faithful` says that no entity is lost, doubled or moved, and which records stand for it.
-/
namespace CodeAtlas

open Chunk

namespace Chunk

/-- Partial records of a class share its methods out, in order, among at least one record. No
record is without methods, and each is the class with its methods and a note of its number. -/
def Parts (cls : Class) (records : List Class) : Prop :=
  ∃ groups : List (List Function),
    groups ≠ [] ∧ (∀ methods ∈ groups, methods ≠ []) ∧ groups.flatten = cls.methods ∧
      records = groups.mapIdx fun index methods =>
        { cls with methods, note := some (partNote (index + 1) groups.length) }

/-- The partial records from a part on are numbered from that part on. -/
theorem partsFrom_eq_mapIdx (cls : Class) (count part : Nat) (groups : List (List Function)) :
    partsFrom cls count part groups = groups.mapIdx fun index methods =>
      { cls with methods, note := some (partNote (index + part) count) } := by
  induction groups generalizing part with
  | nil => rfl
  | cons methods groups ih =>
    rw [partsFrom, ih, List.mapIdx_cons, Nat.zero_add]
    simp only [Nat.add_assoc, Nat.add_comm 1 part]

end Chunk

namespace Chunker

variable (chunker : Chunker) (budget : Budget)

/-- A class without methods stays whole when it is split. -/
theorem split_of_methods_eq_nil {cls : Class} (bare : cls.methods = []) :
    chunker.split budget cls = [cls] := by
  simp [split, bare, group, groupFrom, Packing.close]

/-- A class with methods is split into partial records. -/
theorem split_parts {cls : Class} (occupied : cls.methods ≠ []) :
    Parts cls (chunker.split budget cls) := by
  have grouped : group budget.units chunker.functionSize cls.methods ≠ [] :=
    fun none => occupied ((group_eq_nil_iff _ _ _).mp none)
  refine ⟨_, grouped, groupFrom_nonempty _ _ [] 0 cls.methods, group_flatten _ _ _, ?_⟩
  simp only [split, List.isEmpty_iff, if_neg grouped, partsFrom_eq_mapIdx]

/-- Splitting a class always gives a record. -/
theorem split_nonempty (cls : Class) : chunker.split budget cls ≠ [] := by
  by_cases bare : cls.methods = []
  · rw [split_of_methods_eq_nil chunker budget bare]
    exact List.cons_ne_nil cls []
  · obtain ⟨groups, occupied, _, _, records⟩ := split_parts chunker budget bare
    rw [records]
    simpa using occupied

/-- The record that stands for a function in its chunk. -/
def functionRecord (function : Function) : Function :=
  if budget.units < chunker.functionSize function then truncate function else function

/-- The records that stand for a class in its chunk. -/
def classRecords (cls : Class) : List Class :=
  if budget.units < chunker.classSize cls then chunker.split budget cls else [cls]

/-- The records that stand for the entities of an analysis, in order. -/
def records (analysis : Analysis) : Analysis :=
  ⟨analysis.functions.map (chunker.functionRecord budget),
    analysis.classes.flatMap (chunker.classRecords budget)⟩

/-- The packing of functions keeps a record of each. -/
theorem functionPacking_productive : (chunker.functionPacking budget).Productive :=
  fun function => List.cons_ne_nil (truncate function) []

/-- The packing of classes keeps a record of each. -/
theorem classPacking_productive : (chunker.classPacking budget).Productive :=
  chunker.split_nonempty budget

/-- The records of the packing of functions are single. -/
theorem functionPacking_records (functions : List Function) :
    functions.flatMap (chunker.functionPacking budget).records =
      functions.map (chunker.functionRecord budget) := by
  have single (function : Function) :
      (chunker.functionPacking budget).records function =
        [chunker.functionRecord budget function] := by
    by_cases heavy : budget.units < chunker.functionSize function <;>
      simp [Packing.records, functionPacking, functionRecord, heavy]
  rw [List.map_eq_flatMap]
  exact congrArg (functions.flatMap ·) (funext single)

/-! ## Origins -/

/-- The stretches of functions whose records share a chunk. -/
def functionBlocks (functions : List Function) : List (List Function) :=
  group budget.units (chunker.functionPacking budget).load functions

/-- The stretches of classes whose records share a chunk. -/
def classBlocks (classes : List Class) : List (List Class) :=
  group budget.units (chunker.classPacking budget).load classes

/-- The stretches of an analysis whose records share a chunk. -/
def stretches (analysis : Analysis) : List Analysis :=
  (chunker.functionBlocks budget analysis.functions).map (⟨·, []⟩) ++
    (chunker.classBlocks budget analysis.classes).map (⟨[], ·⟩)

/-- What the chunks of an analysis are made from: its stretches, or an analysis that found nothing
itself. -/
def origins (analysis : Analysis) : List Analysis :=
  if analysis.isEmpty then [analysis] else chunker.stretches budget analysis

/-- The groups of packed functions hold the records of the stretches. -/
theorem functionPacking_pack (functions : List Function) :
    (chunker.functionPacking budget).pack functions =
      (chunker.functionBlocks budget functions).map (·.map (chunker.functionRecord budget)) := by
  rw [(chunker.functionPacking_productive budget).pack_eq_group]
  exact congrArg (List.map · _) (funext (chunker.functionPacking_records budget))

/-- The groups of packed classes hold the records of the stretches. -/
theorem classPacking_pack (classes : List Class) :
    (chunker.classPacking budget).pack classes =
      (chunker.classBlocks budget classes).map (·.flatMap (chunker.classRecords budget)) :=
  (chunker.classPacking_productive budget).pack_eq_group classes

/-- An analysis has no stretches exactly if it found nothing. -/
theorem stretches_eq_nil_iff (analysis : Analysis) :
    chunker.stretches budget analysis = [] ↔ analysis.isEmpty = true := by
  simp [stretches, functionBlocks, classBlocks, group_eq_nil_iff, Analysis.isEmpty]

/-- The chunks of an analysis hold the records of its origins. -/
theorem chunkWithin_eq_records (analysis : Analysis) :
    chunker.chunkWithin budget analysis =
      (chunker.origins budget analysis).map (chunker.records budget) := by
  have chunks :
      ((chunker.functionPacking budget).pack analysis.functions).map (fun functions =>
        ({ functions, classes := [] } : Analysis)) ++
      ((chunker.classPacking budget).pack analysis.classes).map (fun classes =>
        ({ functions := [], classes } : Analysis)) =
      (chunker.stretches budget analysis).map (chunker.records budget) := by
    rw [functionPacking_pack, classPacking_pack, stretches, List.map_append]
    simp only [List.map_map]
    rfl
  have nothing := chunker.stretches_eq_nil_iff budget analysis
  simp only [chunkWithin, chunks, origins, List.isEmpty_iff, List.map_eq_nil_iff]
  by_cases empty : analysis.isEmpty = true
  · rw [if_pos (nothing.mpr empty), if_pos empty, Analysis.isEmpty_iff.mp empty]
    rfl
  · rw [if_neg (empty ∘ nothing.mp), if_neg empty]

/-- The origins of an analysis hold its functions in order. -/
theorem origins_functions (analysis : Analysis) :
    (chunker.origins budget analysis).flatMap (·.functions) = analysis.functions := by
  unfold origins
  split
  · exact List.append_nil analysis.functions
  · simp [stretches, functionBlocks, List.flatMap_map, group_flatten]

/-- The origins of an analysis hold its classes in order. -/
theorem origins_classes (analysis : Analysis) :
    (chunker.origins budget analysis).flatMap (·.classes) = analysis.classes := by
  unfold origins
  split
  · exact List.append_nil analysis.classes
  · simp [stretches, classBlocks, List.flatMap_map, group_flatten]

/-- No origin with classes comes before one with functions. -/
theorem origins_ordered (analysis : Analysis) :
    (chunker.origins budget analysis).Pairwise fun earlier later =>
      earlier.classes = [] ∨ later.functions = [] := by
  unfold origins
  split
  · exact List.pairwise_singleton _ analysis
  · simp only [stretches, List.pairwise_append, List.pairwise_map, List.mem_map]
    refine ⟨List.pairwise_of_forall fun _ _ => .inl trivial,
      List.pairwise_of_forall fun _ _ => .inr trivial, ?_⟩
    rintro _ ⟨functions, _, rfl⟩ later _
    exact .inl rfl

/-- There is an origin. -/
theorem origins_nonempty (analysis : Analysis) : chunker.origins budget analysis ≠ [] := by
  unfold origins
  split
  · exact List.cons_ne_nil analysis []
  · rename_i found
    exact found ∘ (chunker.stretches_eq_nil_iff budget analysis).mp

/-- An origin has entities of one kind. -/
theorem origins_one_kind (analysis : Analysis) :
    ∀ origin ∈ chunker.origins budget analysis, origin.functions = [] ∨ origin.classes = [] := by
  intro origin member
  unfold origins at member
  split at member
  · rename_i empty
    rw [List.mem_singleton.mp member, Analysis.isEmpty_iff.mp empty]
    exact .inl rfl
  · simp only [stretches, List.mem_append, List.mem_map] at member
    rcases member with ⟨functions, _, rfl⟩ | ⟨classes, _, rfl⟩
    · exact .inr rfl
    · exact .inl rfl

/-- The origins of an analysis with entities have entities. -/
theorem origins_occupied {analysis : Analysis} (found : analysis.isEmpty = false) :
    ∀ origin ∈ chunker.origins budget analysis, origin.isEmpty = false := by
  intro origin member
  simp only [origins, found, Bool.false_eq_true, ↓reduceIte, stretches, List.mem_append,
    List.mem_map] at member
  rcases member with ⟨functions, block, rfl⟩ | ⟨classes, block, rfl⟩
  · have occupied := groupFrom_nonempty _ _ [] 0 analysis.functions functions block
    simpa [Analysis.isEmpty] using occupied
  · have occupied := groupFrom_nonempty _ _ [] 0 analysis.classes classes block
    simpa [Analysis.isEmpty] using occupied

/-- Records are missing exactly where entities are. -/
theorem records_functions_eq_nil_iff (analysis : Analysis) :
    (chunker.records budget analysis).functions = [] ↔ analysis.functions = [] :=
  List.map_eq_nil_iff

/-- Records are missing exactly where entities are. -/
theorem records_classes_eq_nil_iff (analysis : Analysis) :
    (chunker.records budget analysis).classes = [] ↔ analysis.classes = [] := by
  have kept := (chunker.classPacking_productive budget).flatMap_records_isEmpty analysis.classes
  change analysis.classes.flatMap (chunker.classPacking budget).records = [] ↔ _
  rw [← List.isEmpty_iff, kept, List.isEmpty_iff]

/-! ## What chunks keep -/

/-- The chunks for a budget, whether it is asked for or is the chunker's own. -/
def Yields (analysis : Analysis) (chunks : List Analysis) : Prop :=
  chunker.chunk analysis (some budget.units) = .ok chunks ∧
    { chunker with budget }.chunk analysis none = .ok chunks

/-- A budget always yields chunks. -/
theorem yields_chunkWithin (analysis : Analysis) :
    chunker.Yields budget analysis (chunker.chunkWithin budget analysis) := by
  refine ⟨?_, rfl⟩
  simp [chunk, Budget.ofInt, budget.positive, Except.map]

/-- What the chunks of an analysis keep of it. -/
structure Faithful (analysis : Analysis) (chunks : List Analysis) : Prop where
  /-- There is a chunk. -/
  exists_chunk : chunks ≠ []
  /-- The only chunk of an analysis that found nothing is that analysis. -/
  alone : analysis.isEmpty = true → chunks = [analysis]
  /-- The chunks of any other analysis have entities. -/
  occupied : analysis.isEmpty = false → ∀ chunk ∈ chunks, chunk.isEmpty = false
  /-- A chunk has entities of one kind. -/
  one_kind : ∀ chunk ∈ chunks, chunk.functions = [] ∨ chunk.classes = []
  /-- No chunk with classes comes before one with functions. -/
  functions_first :
    chunks.Pairwise fun earlier later => earlier.classes = [] ∨ later.functions = []
  /-- The chunks hold the functions in order; those that do not fit have lost their bodies. -/
  functions : chunks.flatMap (·.functions) =
    analysis.functions.map fun function =>
      if budget.units < chunker.functionSize function then
        { function with body := some truncatedBody }
      else function
  /-- The chunks hold the classes in order; those that do not fit and have methods are split. -/
  classes : chunks.flatMap (·.classes) =
    analysis.classes.flatMap fun cls =>
      if budget.units < chunker.classSize cls ∧ cls.methods ≠ [] then chunker.split budget cls
      else [cls]
  /-- A class that is split is shared out among its partial records. -/
  parts : ∀ cls ∈ analysis.classes,
    cls.methods ≠ [] → Parts cls (chunker.split budget cls)

/-- The records of a class are its partial records if it does not fit and has methods. -/
theorem classRecords_eq (cls : Class) :
    chunker.classRecords budget cls =
      if budget.units < chunker.classSize cls ∧ cls.methods ≠ [] then chunker.split budget cls
      else [cls] := by
  unfold classRecords
  by_cases bare : cls.methods = []
  · simp [bare, split_of_methods_eq_nil]
  · simp [bare]

/-- An analysis has records exactly if it has entities. -/
theorem records_isEmpty (analysis : Analysis) :
    (chunker.records budget analysis).isEmpty = analysis.isEmpty := by
  rw [Bool.eq_iff_iff]
  simp [Analysis.isEmpty, records_functions_eq_nil_iff, records_classes_eq_nil_iff]

/-- The records of functions in the chunks, joined, are the records of all functions. -/
theorem flatMap_records_functions (analysis : Analysis) :
    ((chunker.origins budget analysis).map (chunker.records budget)).flatMap (·.functions) =
      analysis.functions.map (chunker.functionRecord budget) := by
  rw [← chunker.origins_functions budget analysis, List.flatMap_map, List.map_flatMap]
  rfl

/-- The records of classes in the chunks, joined, are the records of all classes. -/
theorem flatMap_records_classes (analysis : Analysis) :
    ((chunker.origins budget analysis).map (chunker.records budget)).flatMap (·.classes) =
      analysis.classes.flatMap (chunker.classRecords budget) := by
  calc
    _ = ((chunker.origins budget analysis).flatMap (·.classes)).flatMap
        (chunker.classRecords budget) := by
      rw [List.flatMap_map, List.flatMap_assoc]
      rfl
    _ = _ := by rw [origins_classes]

/-- Cutting an analysis into chunks loses, doubles and moves nothing. -/
theorem chunk_faithful (analysis : Analysis) :
    ∃ chunks, chunker.Yields budget analysis chunks ∧
      chunker.Faithful budget analysis chunks := by
  refine ⟨_, chunker.yields_chunkWithin budget analysis, ?_⟩
  rw [chunkWithin_eq_records]
  exact {
    exists_chunk := by simpa using chunker.origins_nonempty budget analysis
    alone := by
      intro empty
      rw [Analysis.isEmpty_iff.mp empty]
      rfl
    occupied := by
      intro found chunk member
      obtain ⟨origin, source, rfl⟩ := List.mem_map.mp member
      rw [records_isEmpty]
      exact chunker.origins_occupied budget found origin source
    one_kind := by
      intro chunk member
      obtain ⟨origin, source, rfl⟩ := List.mem_map.mp member
      rw [records_functions_eq_nil_iff, records_classes_eq_nil_iff]
      exact chunker.origins_one_kind budget analysis origin source
    functions_first := by
      simp only [List.pairwise_map, records_functions_eq_nil_iff, records_classes_eq_nil_iff]
      exact chunker.origins_ordered budget analysis
    functions := chunker.flatMap_records_functions budget analysis
    classes := by
      rw [flatMap_records_classes]
      exact congrArg (analysis.classes.flatMap ·) (funext (chunker.classRecords_eq budget))
    parts := fun cls _ occupied => chunker.split_parts budget occupied }

end Chunker

end CodeAtlas
