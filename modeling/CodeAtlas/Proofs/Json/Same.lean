import CodeAtlas.Json.Basic

/-!
# Comparing JSON values

Two values are the same exactly if they are equal, so that equality of values can be decided by
comparing them: `same_iff`.
-/
namespace CodeAtlas.Json

mutual

/-- Values are the same exactly if they are equal. -/
theorem same_iff (left right : Json) : same left right = true ↔ left = right := by
  cases left with
  | array lefts =>
    cases right with
    | array rights => rw [same, sameItems_iff lefts rights, Json.array.injEq]
    | _ => simp [same]
  | object lefts =>
    cases right with
    | object rights => rw [same, sameFields_iff lefts rights, Json.object.injEq]
    | _ => simp [same]
  | _ => cases right <;> simp [same]

/-- Lists of values are the same exactly if they are equal. -/
theorem sameItems_iff (lefts rights : List Json) :
    sameItems lefts rights = true ↔ lefts = rights := by
  cases lefts with
  | nil => cases rights <;> simp [sameItems]
  | cons left lefts =>
    cases rights with
    | nil => simp [sameItems]
    | cons right rights =>
      rw [sameItems, Bool.and_eq_true, same_iff left right, sameItems_iff lefts rights,
        List.cons.injEq]

/-- Lists of fields are the same exactly if they are equal. -/
theorem sameFields_iff (lefts rights : List (String × Json)) :
    sameFields lefts rights = true ↔ lefts = rights := by
  cases lefts with
  | nil => cases rights <;> simp [sameFields]
  | cons left lefts =>
    obtain ⟨name, value⟩ := left
    cases rights with
    | nil => simp [sameFields]
    | cons right rights =>
      obtain ⟨other, replacement⟩ := right
      rw [sameFields, Bool.and_eq_true, Bool.and_eq_true, same_iff value replacement,
        sameFields_iff lefts rights, beq_iff_eq, List.cons.injEq, Prod.mk.injEq]

end

instance : DecidableEq Json := fun left right =>
  decidable_of_iff (same left right = true) (same_iff left right)

end CodeAtlas.Json
