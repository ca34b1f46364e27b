import Mathlib.Data.List.Forall2

/-!
# Steps that may fail

What steps come to that may fail: two of them, one for each item, and one after the other along
items.
-/
namespace CodeAtlas

variable {ε α β : Type} {first : Except ε α} {next : α → Except ε β}

/-! ## Two steps -/

/-- Two steps give something if the second one gives it from what the first one gave. -/
theorem bind_eq_ok_iff {last : β} :
    first >>= next = .ok last ↔ ∃ middle, first = .ok middle ∧ next middle = .ok last := by
  cases first <;> simp [bind, Except.bind]

/-- Two steps fail if the first one does, or the second one with what the first one gave. -/
theorem bind_eq_error_iff {reason : ε} :
    first >>= next = .error reason ↔
      first = .error reason ∨ ∃ middle, first = .ok middle ∧ next middle = .error reason := by
  cases first <;> simp [bind, Except.bind]

/-! ## Steps for items -/

section

variable {step : α → Except ε β} {items : List α}

/-- What is made of items that can all be made is made of one of them. -/
theorem exists_of_mapM {results : List β} (made : items.mapM step = .ok results) :
    ∀ result ∈ results, ∃ item ∈ items, step item = .ok result := by
  induction items generalizing results with
  | nil =>
    cases made
    exact List.forall_mem_nil _
  | cons item items ih =>
    rw [List.mapM_cons] at made
    obtain ⟨head, here, rest⟩ := bind_eq_ok_iff.mp made
    obtain ⟨others, later, last⟩ := bind_eq_ok_iff.mp rest
    cases last
    refine List.forall_mem_cons.mpr ⟨⟨item, List.mem_cons_self, here⟩, fun result member => ?_⟩
    obtain ⟨other, inside, found⟩ := ih later result member
    exact ⟨other, List.mem_cons_of_mem item inside, found⟩

/-- If of each item something in a relation to it can be made, it is made of all of them. -/
theorem exists_mapM {relation : α → β → Prop}
    (each : ∀ item ∈ items, ∃ result, step item = .ok result ∧ relation item result) :
    ∃ results, items.mapM step = .ok results ∧ List.Forall₂ relation items results := by
  induction items with
  | nil => exact ⟨[], rfl, .nil⟩
  | cons item items ih =>
    obtain ⟨⟨result, made, here⟩, others⟩ := List.forall_mem_cons.mp each
    obtain ⟨results, later, rest⟩ := ih others
    refine ⟨result :: results, ?_, .cons here rest⟩
    rw [List.mapM_cons, made, later]
    rfl

end

/-- Steps along items fail if one of them fails. -/
theorem exists_of_foldlM_error {step : β → α → Except ε β} {items : List α} {start : β}
    {reason : ε} (stopped : items.foldlM step start = .error reason) :
    ∃ item ∈ items, ∃ state, step state item = .error reason := by
  induction items generalizing start with
  | nil => cases stopped
  | cons item items ih =>
    rw [List.foldlM_cons] at stopped
    rcases bind_eq_error_iff.mp stopped with here | ⟨state, _, later⟩
    · exact ⟨item, List.mem_cons_self, start, here⟩
    · obtain ⟨other, member, found⟩ := ih later
      exact ⟨other, List.mem_cons_of_mem item member, found⟩

end CodeAtlas
