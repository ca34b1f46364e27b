/-!
# Limits of nesting

Going through nested things level by level takes up the stack, and what stands on the stack already
is not in the program's hand. So the number of levels it gets through is a parameter of everything
that does so. There is always room for what the program itself nests.
-/
namespace CodeAtlas

/-- How many levels of nested things can be gone through. -/
structure Depth where
  /-- The number of levels. -/
  levels : Nat
  /-- There is room for what the program itself nests. -/
  roomy : 10 ≤ levels
  deriving DecidableEq, Repr

/-- The least depth. -/
def Depth.least : Depth := ⟨10, Nat.le_refl 10⟩

/-- The depths of what the service goes through level by level. -/
structure Limits where
  /-- Of the search for a mark in a tree. -/
  searching : Depth
  /-- Of composing and building documents. -/
  loading : Depth
  /-- Of copying a value. -/
  copying : Depth
  /-- Of writing a value. -/
  writing : Depth
  /-- Of reading a value. -/
  reading : Depth
  deriving DecidableEq, Repr

/-- The least limits. -/
def Limits.least : Limits := ⟨.least, .least, .least, .least, .least⟩

end CodeAtlas
