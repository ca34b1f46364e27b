import CodeAtlas.Chunk.Budget
import CodeAtlas.Chunk.Packing
import CodeAtlas.Entity.Json

/-!
# Chunks of an analysis

A chunker cuts an analysis into chunks that fit a budget: first chunks of functions, then chunks
of classes. A function that does not fit by itself loses its body; a class that does not fit by
itself becomes several partial records, one for each group of its methods.
-/
namespace CodeAtlas

namespace Chunk

/-- The size of a value that is sent as JSON. -/
def sizeOf (estimator : Estimator) (json : Json) : Nat := estimator (json.text .compact)

/-- What stands for a body that is too large. -/
def truncatedBody : String := "/* Body too large, truncated */"

/-- A function without its body. -/
def truncate (function : Function) : Function := { function with body := some truncatedBody }

/-- What a partial record says of itself. -/
def partNote (part total : Nat) : String :=
  "Part " ++ toString part ++ "/" ++ toString total ++ " of large class"

/-- The partial records of a class for groups of its methods, from a part on. -/
def partsFrom (cls : Class) (total : Nat) : Nat → List (List Function) → List Class
  | _, [] => []
  | part, methods :: groups =>
    { cls with methods, note := some (partNote part total) } ::
      partsFrom cls total (part + 1) groups

end Chunk

open Chunk

/-- A way to cut analyses into chunks. -/
structure Chunker where
  /-- The budget that is used where none is given. -/
  budget : Budget
  /-- How sizes are estimated. -/
  estimator : Estimator

namespace Chunker

/-- The size of a function. -/
def functionSize (chunker : Chunker) (function : Function) : Nat :=
  sizeOf chunker.estimator function.toJson

/-- The size of a class. -/
def classSize (chunker : Chunker) (cls : Class) : Nat := sizeOf chunker.estimator cls.toJson

/-- The sum of the sizes of the entities of a chunk. -/
def payloadSize (chunker : Chunker) (chunk : Analysis) : Nat :=
  total chunker.functionSize chunk.functions + total chunker.classSize chunk.classes

/-- The partial records of a class; a class without methods stays whole. -/
def split (chunker : Chunker) (budget : Budget) (cls : Class) : List Class :=
  let groups := group budget.units chunker.functionSize cls.methods
  if groups.isEmpty then [cls] else partsFrom cls groups.length 1 groups

/-- How functions are packed. -/
def functionPacking (chunker : Chunker) (budget : Budget) : Packing Function :=
  ⟨budget.units, chunker.functionSize, fun function => [truncate function]⟩

/-- How classes are packed. -/
def classPacking (chunker : Chunker) (budget : Budget) : Packing Class :=
  ⟨budget.units, chunker.classSize, chunker.split budget⟩

/-- Cut an analysis into chunks that fit a budget; an analysis that found nothing is its own
only chunk. -/
def chunkWithin (chunker : Chunker) (budget : Budget) (analysis : Analysis) : List Analysis :=
  let chunks :=
    ((chunker.functionPacking budget).pack analysis.functions).map (fun functions =>
      { functions, classes := [] }) ++
    ((chunker.classPacking budget).pack analysis.classes).map fun classes =>
      { functions := [], classes }
  if chunks.isEmpty then [analysis] else chunks

/-- Cut an analysis into chunks, for a number of units or for the chunker's own budget. -/
def chunk (chunker : Chunker) (analysis : Analysis) (units : Option Int) :
    Except Budget.Refusal (List Analysis) :=
  match units with
  | none => .ok (chunker.chunkWithin chunker.budget analysis)
  | some units => (Budget.ofInt units).map fun budget => chunker.chunkWithin budget analysis

end Chunker

end CodeAtlas
