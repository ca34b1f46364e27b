import CodeAtlas.Proofs.Json.RoundTrip
import CodeAtlas.Proofs.Outcome
import CodeAtlas.Request.Context

/-!
# Contexts can be read back

What is sent for a value is made of parts of the value, texts and a few levels around them. So the
context of a value that can be held, at whatever depth, is held a few levels deeper than can be
copied, because a value with a context was copied: `held_context`.
-/
namespace CodeAtlas

open Json (Held)

variable {depth : Nat}

/-! ## Values that are held -/

namespace Json

/-- A value that is held, and has no more than so many levels, is held at that depth. -/
theorem Held.within {levels : Nat} {json : Json} (held : Held depth json)
    (within : Request.withinLevels levels json = true) : Held levels json := by
  induction held generalizing levels with
  | null => exact .null
  | bool value => exact .bool value
  | string value => exact .string value
  | int short => exact .int short
  | array each ih =>
    cases levels with
    | zero => simp [Request.withinLevels] at within
    | succ levels =>
      rw [Request.withinLevels, List.all_eq_true] at within
      exact .array fun item member => ih item member (within item member)
  | object distinct each ih =>
    cases levels with
    | zero => simp [Request.withinLevels] at within
    | succ levels =>
      rw [Request.withinLevels, List.all_eq_true] at within
      exact .object distinct fun field member => ih field member (within field member)

/-- The values of fields are held. -/
def FieldsHeld (depth : Nat) (fields : List (String × Json)) : Prop :=
  ∀ field ∈ fields, Held depth field.2

variable {fields : List (String × Json)} {value : Json} {name : String}

/-- Values of fields that are held are held at a greater depth. -/
theorem FieldsHeld.mono {deeper : Nat} (each : FieldsHeld depth fields) (le : depth ≤ deeper) :
    FieldsHeld deeper fields :=
  fun field member => (each field member).mono le

/-- The value of a field is held if the values of all fields are. -/
theorem FieldsHeld.lookup (each : FieldsHeld depth fields)
    (found : lookup fields name = some value) : Held depth value := by
  obtain ⟨field, first, rfl⟩ := Option.map_eq_some_iff.mp found
  exact each field (List.mem_of_find?_eq_some first)

/-- Values of fields are still held when a field is set to a value that is held. -/
theorem FieldsHeld.put (each : FieldsHeld depth fields) (held : Held depth value) (name : String) :
    FieldsHeld depth (put fields name value) := by
  induction fields with
  | nil => exact List.forall_mem_singleton.mpr held
  | cons field fields ih =>
    obtain ⟨first, others⟩ := List.forall_mem_cons.mp each
    unfold Json.put
    split_ifs
    · exact List.forall_mem_cons.mpr ⟨held, others⟩
    · exact List.forall_mem_cons.mpr ⟨first, ih others⟩

/-- Names stay different when a field is set. -/
theorem nodup_put (distinct : (fields.map (·.1)).Nodup) (name : String) (value : Json) :
    ((put fields name value).map (·.1)).Nodup := by
  by_cases known : name ∈ fields.map (·.1)
  · have same : (put fields name value).map (·.1) = fields.map (·.1) := by
      clear distinct
      induction fields with
      | nil => contradiction
      | cons field fields ih =>
        unfold put
        split_ifs with here
        · rw [List.map_cons, List.map_cons, here]
        · have later : name ∈ fields.map (·.1) := by
            simpa [Ne.symm here] using known
          rw [List.map_cons, List.map_cons, ih later]
    rwa [same]
  · rw [put_of_not_mem value known, List.map_append, List.nodup_append]
    refine ⟨distinct, List.nodup_cons.mpr ⟨List.not_mem_nil, List.nodup_nil⟩, ?_⟩
    rintro other member _ new rfl
    obtain rfl := List.mem_singleton.mp new
    exact known member

end Json

/-! ## What is sent -/

namespace Request

variable {value result : Json} {fields : List (String × Json)} {name : String}

/-- What has fields is an object of them; if it is held, their names are different and their values
are held. -/
theorem fieldsHeld_of_fieldsOf (held : Held depth value) (opened : fieldsOf value = .ok fields) :
    (fields.map (·.1)).Nodup ∧ ∃ inner, depth = inner + 1 ∧ Json.FieldsHeld inner fields := by
  cases held with
  | object distinct each =>
    obtain rfl := Except.ok.inj opened
    exact ⟨distinct, _, rfl, each⟩
  | _ => contradiction

/-- The value of a field, or another one, is held if all of these are. -/
theorem held_fieldOr {default : Json} (each : Json.FieldsHeld depth fields)
    (held : Held depth default) (name : String) : Held depth (fieldOr default fields name) := by
  unfold fieldOr
  cases found : Json.lookup fields name with
  | none => exact held
  | some value => exact each.lookup found

/-- The body that is sent is a text. -/
theorem exists_text_of_sentBody (sent : sentBody value = .ok result) :
    ∃ text, result = .string text := by
  unfold sentBody at sent
  split at sent
  · exact ⟨_, (Except.ok.inj sent).symm⟩
  · split_ifs at sent
    exact ⟨_, (Except.ok.inj sent).symm⟩

/-- The place that is sent is held one level deeper. -/
theorem held_sentPlace (held : Held depth value) (sent : sentPlace value = .ok result) :
    Held (depth + 1) result := by
  unfold sentPlace at sent
  split_ifs at sent
  · obtain rfl := Except.ok.inj sent
    exact .null
  · obtain ⟨fields, opened, rest⟩ := bind_eq_ok_iff.mp sent
    obtain ⟨_, inner, rfl, each⟩ := fieldsHeld_of_fieldsOf held opened
    split at rest
    · obtain rfl := Except.ok.inj rest
      refine Held.mono (.object (by simp) ?_) (Nat.le_succ (inner + 1))
      simp only [List.forall_mem_cons]
      exact ⟨.string _, held_fieldOr each .null _, held_fieldOr each .null _,
        List.forall_mem_nil _⟩
    · contradiction

/-- The fields that are sent of methods and functions alike are held, with a text for the body. -/
theorem fieldsHeld_signature (each : Json.FieldsHeld (depth + 1) fields) (body : String) :
    Json.FieldsHeld (depth + 1)
      [("name", fieldOr .null fields "name"),
        ("parameters", fieldOr (.array []) fields "parameters"),
        ("returnType", fieldOr .null fields "returnType"), ("body", .string body),
        ("documentation", fieldOr (.string "") fields "documentation")] := by
  simp only [Json.FieldsHeld, List.forall_mem_cons]
  exact ⟨held_fieldOr each .null _, held_fieldOr each (.array (List.forall_mem_nil _)) _,
    held_fieldOr each .null _, .string _, held_fieldOr each (.string _) _, List.forall_mem_nil _⟩

/-- What is sent of a method is held one level deeper. -/
theorem held_sentMethod (held : Held depth value) (sent : sentMethod value = .ok result) :
    Held (depth + 1) result := by
  obtain ⟨fields, opened, rest⟩ := bind_eq_ok_iff.mp sent
  obtain ⟨body, shortened, last⟩ := bind_eq_ok_iff.mp rest
  obtain ⟨_, inner, rfl, each⟩ := fieldsHeld_of_fieldsOf held opened
  obtain ⟨text, rfl⟩ := exists_text_of_sentBody shortened
  obtain rfl := Except.ok.inj last
  exact .object (by simp) (fieldsHeld_signature (each.mono (Nat.le_succ inner)) text)

/-- What is sent of a function is held one level deeper. -/
theorem held_sentFunction (held : Held depth value) (sent : sentFunction value = .ok result) :
    Held (depth + 1) result := by
  obtain ⟨fields, opened, rest⟩ := bind_eq_ok_iff.mp sent
  obtain ⟨body, shortened, rest⟩ := bind_eq_ok_iff.mp rest
  obtain ⟨location, placed, last⟩ := bind_eq_ok_iff.mp rest
  obtain ⟨_, inner, rfl, each⟩ := fieldsHeld_of_fieldsOf held opened
  obtain ⟨text, rfl⟩ := exists_text_of_sentBody shortened
  obtain rfl := Except.ok.inj last
  have place : Json.FieldsHeld (inner + 1) [("location", location)] :=
    List.forall_mem_singleton.mpr (held_sentPlace (held_fieldOr each .null _) placed)
  have signature := fieldsHeld_signature (each.mono (Nat.le_succ inner)) text
  have whole := List.forall_mem_append.mpr ⟨signature, place⟩
  exact .object (by simp) whole

/-- The elements of a value that is held are held one level less deep. -/
theorem held_elements {members : List Json} (held : Held (depth + 1) value)
    (listed : elements value = .ok members) : ∀ member ∈ members, Held depth member := by
  cases held with
  | array each =>
    obtain rfl := Except.ok.inj listed
    exact each
  | object distinct each =>
    obtain rfl := Except.ok.inj listed
    exact List.forall_mem_map.mpr fun _ _ => .string _
  | string text =>
    obtain rfl := Except.ok.inj listed
    exact List.forall_mem_map.mpr fun _ _ => .string _
  | _ => contradiction

/-- What is sent of a class is held two levels deeper. -/
theorem held_sentClass (held : Held depth value) (sent : sentClass value = .ok result) :
    Held (depth + 2) result := by
  obtain ⟨fields, opened, rest⟩ := bind_eq_ok_iff.mp sent
  obtain ⟨members, listed, rest⟩ := bind_eq_ok_iff.mp rest
  obtain ⟨methods, each, rest⟩ := bind_eq_ok_iff.mp rest
  obtain ⟨location, placed, last⟩ := bind_eq_ok_iff.mp rest
  obtain ⟨_, inner, rfl, values⟩ := fieldsHeld_of_fieldsOf held opened
  obtain rfl := Except.ok.inj last
  have members := held_elements
    (held_fieldOr (values.mono (Nat.le_succ inner)) (.array (List.forall_mem_nil _)) _) listed
  have methods : Held (inner + 2) (.array methods) := .array fun record made => by
    obtain ⟨member, inside, sent⟩ := exists_of_mapM each record made
    exact held_sentMethod (members member inside) sent
  have place := held_sentPlace (held_fieldOr values .null _) placed
  have deeper := values.mono (Nat.le_add_right inner 2)
  have note : ∀ field ∈ (if (fieldOr .null fields "note").isTruthy = true then
      [("note", fieldOr .null fields "note")] else []), Held (inner + 2) field.2 := by
    split_ifs
    · exact List.forall_mem_singleton.mpr (held_fieldOr deeper .null _)
    · exact List.forall_mem_nil _
  refine .object ?_ ?_
  · split_ifs <;> simp
  · simp only [List.forall_mem_append, List.forall_mem_cons]
    exact ⟨⟨held_fieldOr deeper .null _, methods,
      held_fieldOr deeper (.array (List.forall_mem_nil _)) _, held_fieldOr deeper (.string _) _,
      place.mono (Nat.le_succ _), List.forall_mem_nil _⟩, note⟩

/-! ## Contexts -/

/-- Changing the items of a list by what makes each item at most two levels deeper makes fields at
most two levels deeper, and keeps their names. -/
theorem fieldsHeld_changeItems {change : Json → Except ContextFault Json}
    {changed : List (String × Json)}
    (deepens : ∀ {depth item result}, Held depth item → change item = .ok result →
      Held (depth + 2) result)
    (distinct : (fields.map (·.1)).Nodup) (each : Json.FieldsHeld depth fields)
    (succeeded : changeItems name change fields = .ok changed) :
    (changed.map (·.1)).Nodup ∧ Json.FieldsHeld (depth + 2) changed := by
  have deeper := each.mono (Nat.le_add_right depth 2)
  unfold changeItems at succeeded
  split at succeeded
  · rename_i items found
    obtain ⟨results, made, last⟩ := bind_eq_ok_iff.mp succeeded
    obtain rfl := Except.ok.inj last
    refine ⟨Json.nodup_put distinct name _, deeper.put ?_ name⟩
    cases each.lookup found with
    | array inside =>
      refine .array fun result member => ?_
      obtain ⟨item, inItems, outcome⟩ := exists_of_mapM made result member
      exact deepens (inside item inItems) outcome
  · obtain rfl := Except.ok.inj succeeded
    exact ⟨distinct, deeper⟩

/-- The context of a copy is held at most four levels deeper. -/
theorem held_contextOfCopy {moment : String} (held : Held depth value)
    (made : contextOfCopy moment value = .ok result) : Held (depth + 4) result := by
  obtain ⟨fields, opened, rest⟩ := bind_eq_ok_iff.mp made
  obtain ⟨named, functions, rest⟩ := bind_eq_ok_iff.mp rest
  obtain ⟨whole, classes, last⟩ := bind_eq_ok_iff.mp rest
  obtain ⟨distinct, inner, rfl, each⟩ := fieldsHeld_of_fieldsOf held opened
  obtain rfl := Except.ok.inj last
  obtain ⟨distinct, each⟩ := fieldsHeld_changeItems
    (fun held sent => (held_sentFunction held sent).mono (Nat.le_succ _)) distinct each functions
  obtain ⟨distinct, each⟩ := fieldsHeld_changeItems held_sentClass distinct each classes
  have record : Held (inner + 4) (contextRecord moment) := by
    refine .object (by simp) ?_
    simp only [List.forall_mem_cons]
    exact ⟨.bool _, .string _, .string _, List.forall_mem_nil _⟩
  exact .object (Json.nodup_put distinct _ _) (each.put record _)

/-- The context of a value that is held, at whatever depth, is held at most four levels deeper than
can be copied. -/
theorem held_context {levels : Nat} {moment : String} (held : Held depth value)
    (made : context levels moment value = .ok result) : Held (levels + 4) result := by
  unfold context at made
  split_ifs at made with within
  exact held_contextOfCopy (held.within within) made

end Request

end CodeAtlas
