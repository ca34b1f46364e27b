/-!
# Budgets

How large a chunk may be, and how sizes are estimated. A budget is at least one, so that every
text has a size that can be compared with it.
-/
namespace CodeAtlas.Chunk

/-- A measure of texts. -/
abbrev Estimator := String → Nat

/-- One unit for every four characters, a last unit for what is left over. -/
def tokens : Estimator := fun text => (text.length + 3) / 4

/-- The most that a chunk may hold. -/
structure Budget where
  /-- The number of units. -/
  units : Nat
  /-- There is at least one. -/
  positive : 1 ≤ units
  deriving DecidableEq, Repr

namespace Budget

/-- The budget that is used where none is given. -/
def standard : Budget := ⟨32000, by decide⟩

/-- Why a number is no budget. -/
inductive Refusal where
  /-- It is less than one. -/
  | tooSmall (given : Int)
  deriving DecidableEq, Repr

/-- What a refusal says. -/
def Refusal.message : Refusal → String
  | .tooSmall given => "max_chunk_size must be at least 1, got " ++ toString given

/-- The budget of a number of units. -/
def ofInt (units : Int) : Except Refusal Budget :=
  if positive : 1 ≤ units.toNat then .ok ⟨units.toNat, positive⟩ else .error (.tooSmall units)

end Budget

end CodeAtlas.Chunk
