import CodeAtlas.Proofs.Chunk.Coverage

/-!
# Payloads of chunks

The entities of a chunk that were packed whole fit the budget together, whatever the estimator says
of them; only reduced records can push the payload of a chunk past the budget, and by no more than
they weigh themselves: `chunk_within`. It speaks of the origins of chunks, since a chunk does not
tell which of its records are reduced. There is no choice of origins: they are joined to the
analysis, and each entity has records of its own.
-/
namespace CodeAtlas

open Chunk

namespace Chunker

variable (chunker : Chunker) (budget : Budget)

/-- The entities of an analysis that fit a budget by themselves. -/
def fitting (analysis : Analysis) : Analysis :=
  ⟨analysis.functions.filter (chunker.functionSize · ≤ budget.units),
    analysis.classes.filter (chunker.classSize · ≤ budget.units)⟩

/-- The records of the entities that do not fit by themselves: functions without their bodies,
partial records of classes, and classes that have no methods to be split by. -/
def reduced (analysis : Analysis) : Analysis :=
  ⟨(analysis.functions.filter (budget.units < chunker.functionSize ·)).map truncate,
    (analysis.classes.filter (budget.units < chunker.classSize ·)).flatMap (chunker.split budget)⟩

/-- The records of an analysis weigh what its fitting entities and its reduced records weigh. -/
theorem payloadSize_records (analysis : Analysis) :
    chunker.payloadSize (chunker.records budget analysis) =
      chunker.payloadSize (chunker.fitting budget analysis) +
        chunker.payloadSize (chunker.reduced budget analysis) := by
  have functions :
      total chunker.functionSize (analysis.functions.map (chunker.functionRecord budget)) =
        total chunker.functionSize
            (analysis.functions.filter (chunker.functionSize · ≤ budget.units)) +
          total chunker.functionSize
            ((analysis.functions.filter (budget.units < chunker.functionSize ·)).map
              truncate) := by
    rw [← functionPacking_records, List.map_eq_flatMap]
    exact (chunker.functionPacking budget).total_records analysis.functions
  have classes :
      total chunker.classSize (analysis.classes.flatMap (chunker.classRecords budget)) =
        total chunker.classSize (analysis.classes.filter (chunker.classSize · ≤ budget.units)) +
          total chunker.classSize
            ((analysis.classes.filter (budget.units < chunker.classSize ·)).flatMap
              (chunker.split budget)) :=
    (chunker.classPacking budget).total_records analysis.classes
  simp only [payloadSize, records, fitting, reduced, functions, classes]
  omega

/-- The fitting entities of an origin fit the budget together. -/
theorem payloadSize_fitting_le (analysis : Analysis) :
    ∀ origin ∈ chunker.origins budget analysis,
      chunker.payloadSize (chunker.fitting budget origin) ≤ budget.units := by
  intro origin member
  unfold origins at member
  split at member
  · rename_i empty
    rw [List.mem_singleton.mp member, Analysis.isEmpty_iff.mp empty]
    exact Nat.zero_le budget.units
  · simp only [stretches, List.mem_append, List.mem_map] at member
    rcases member with ⟨functions, block, rfl⟩ | ⟨classes, block, rfl⟩
    · have load := (chunker.functionPacking budget).total_load_le _ functions block
      rw [Packing.total_load] at load
      exact load
    · have load := (chunker.classPacking budget).total_load_le _ classes block
      rw [Packing.total_load] at load
      change 0 + _ ≤ budget.units
      rw [Nat.zero_add]
      exact load

/-- How far a chunk made from an origin keeps to a budget. -/
structure Within (origin : Analysis) : Prop where
  /-- The entities that were packed whole fit the budget together. -/
  fitting_le : chunker.payloadSize (chunker.fitting budget origin) ≤ budget.units
  /-- Without reduced records the chunk fits the budget. -/
  unreduced_le : (chunker.reduced budget origin).isEmpty = true →
    chunker.payloadSize (chunker.records budget origin) ≤ budget.units
  /-- With reduced records it exceeds the budget by no more than they weigh. -/
  excess_le : chunker.payloadSize (chunker.records budget origin) - budget.units ≤
    chunker.payloadSize (chunker.reduced budget origin)

/-- An origin whose fitting entities fit the budget together gives a chunk that keeps to it. -/
theorem Within.of_fitting_le {origin : Analysis}
    (fits : chunker.payloadSize (chunker.fitting budget origin) ≤ budget.units) :
    chunker.Within budget origin := by
  have weight := chunker.payloadSize_records budget origin
  refine ⟨fits, ?_, by omega⟩
  intro none
  rw [Analysis.isEmpty_iff.mp none] at weight
  change _ = _ + 0 at weight
  omega

/-- The chunks of an analysis hold the records of consecutive origins, each within the budget but
for the reduced records. -/
theorem chunk_within (analysis : Analysis) :
    ∃ origins : List Analysis,
      origins.flatMap (·.functions) = analysis.functions ∧
      origins.flatMap (·.classes) = analysis.classes ∧
      chunker.Yields budget analysis (origins.map (chunker.records budget)) ∧
      ∀ origin ∈ origins, chunker.Within budget origin := by
  refine ⟨chunker.origins budget analysis, chunker.origins_functions budget analysis,
    chunker.origins_classes budget analysis, ?_, ?_⟩
  · rw [← chunkWithin_eq_records]
    exact chunker.yields_chunkWithin budget analysis
  · intro origin member
    exact .of_fitting_le chunker budget
      (chunker.payloadSize_fitting_le budget analysis origin member)

end Chunker

end CodeAtlas
