import CodeAtlas.Proofs.Json.Limits
import CodeAtlas.Proofs.Json.RoundTrip

/-!
# Values that cannot be read back

The text of a regular value that is nested too deeply, or has an integer with too many digits, stops
the reader at a limit. So the text of a regular value reads as the value exactly if the value can be
held: `read_text_iff`.
-/
namespace CodeAtlas.Json

variable {layout : Layout} {depth : Nat}

/-- A written value stops the reader at a limit, with a bound on its length for fuel, before
whatever a number cannot go on with. -/
def Overflows (layout : Layout) (depth : Nat) (json : Json) : Prop :=
  ∀ (level fuel place : Nat) (rest : List Char), (write layout level json).length ≤ fuel →
    EndsNumber rest →
      ∃ error, readValue depth fuel ⟨write layout level json ++ rest, place⟩ = .error error ∧
        error.AtLimit

/-- A long integer stops the reader. -/
theorem overflows_int {value : Int} (long : digitLimit < (Nat.toDigits 10 value.natAbs).length) :
    Overflows layout depth (.int value) := by
  intro level fuel place rest enough ends
  obtain ⟨fuel, rfl⟩ := (Regular.int value).exists_fuel enough
  obtain ⟨start, number⟩ := readValue_write_int layout depth level fuel place value rest
  rw [number, readNumber_decimals _ _ _ _ ends, if_pos long]
  exact ⟨_, rfl, trivial⟩

/-! ## Lists -/

/-- A number ends where written items go on. -/
theorem endsNumber_writeItems (lawful : layout.Lawful) (level : Nat) (items : List Json)
    {tail : List Char} (ends : EndsNumber tail) :
    EndsNumber (writeItems layout level items ++ tail) := by
  obtain ⟨blanks, comma, _⟩ := lawful.comma
  cases items with
  | nil => exact ends
  | cons item items =>
    rw [writeItems, comma]
    exact (endsNumber_cons ',' _ (by simp)).1

/-- Items stop the reader if the first of them does. -/
theorem readItems_overflow_first (lawful : layout.Lawful) (level fuel place : Nat)
    (found items : List Json) {item : Json} {tail : List Char} (ends : EndsNumber tail)
    (overflows : Overflows layout depth item) (enough : (write layout level item).length ≤ fuel) :
    ∃ error, readItems depth (fuel + 1)
      ⟨write layout level item ++ (writeItems layout level items ++ tail), place⟩ found =
        .error error ∧ error.AtLimit := by
  obtain ⟨error, stop, limit⟩ := overflows level fuel place _ enough
    (endsNumber_writeItems lawful level items ends)
  exact ⟨error, readItems_stop found stop, limit⟩

/-- Items stop the reader if one of them cannot be held: those before it read back. -/
theorem readItems_overflow (lawful : layout.Lawful) (level : Nat) {tail : List Char}
    (ends : EndsNumber tail) (items : List Json) :
    ∀ (item : Json) (found : List Json) (fuel place : Nat),
      (∀ each ∈ item :: items, Regular each ∧ (¬Held depth each → Overflows layout depth each)) →
      (∃ each ∈ item :: items, ¬Held depth each) →
      (write layout level item).length + (writeItems layout level items).length < fuel →
        ∃ error, readItems depth fuel
          ⟨write layout level item ++ (writeItems layout level items ++ tail), place⟩ found =
            .error error ∧ error.AtLimit := by
  induction items with
  | nil =>
    intro item found fuel place each unheld enough
    obtain ⟨fuel, rfl⟩ : ∃ less, fuel = less + 1 := Nat.exists_eq_succ_of_ne_zero (by omega)
    have heavy : ¬Held depth item := by simpa using unheld
    exact readItems_overflow_first lawful level fuel place found [] ends
      ((each item (.head _)).2 heavy) (by omega)
  | cons next items ih =>
    intro item found fuel place each unheld enough
    obtain ⟨fuel, rfl⟩ : ∃ less, fuel = less + 1 := Nat.exists_eq_succ_of_ne_zero (by omega)
    have longer := length_writeItems_cons lawful level next items
    by_cases held : Held depth item
    · obtain ⟨start, passed⟩ := readItems_pass lawful level fuel place found items tail
        (held.readsBack lawful) (each next (.tail _ (.head _))).1 (by omega)
      have later : ∃ each ∈ next :: items, ¬Held depth each := by
        simpa [held] using unheld
      rw [passed]
      exact ih next (item :: found) fuel start (fun other member => each other (.tail _ member))
        later (by omega)
    · exact readItems_overflow_first lawful level fuel place found (next :: items) ends
        ((each item (.head _)).2 held) (by omega)

/-- A list that cannot be held stops the reader, if its items do that cannot be held. -/
theorem overflows_array (lawful : layout.Lawful) {items : List Json}
    (each : ∀ item ∈ items, Regular item ∧ ∀ depth, ¬Held depth item → Overflows layout depth item)
    (unheld : ¬Held depth (.array items)) : Overflows layout depth (.array items) := by
  intro level fuel place rest enough ends
  obtain ⟨fuel, rfl⟩ := (Regular.array fun item member => (each item member).1).exists_fuel enough
  cases depth with
  | zero =>
    refine ⟨.tooDeep false, ?_, trivial⟩
    cases items <;> simp [write_array_nil, write_array_cons, readValue.eq_def]
  | succ depth =>
    cases items with
    | nil => exact absurd (.array (List.forall_mem_nil _)) unheld
    | cons item items =>
      have heavy : ∃ each ∈ item :: items, ¬Held depth each := by
        by_contra light
        refine unheld (.array fun other member => ?_)
        by_contra misfit
        exact light ⟨other, member, misfit⟩
      have longer := length_write_array layout level item items
      obtain ⟨start, opened⟩ := readValue_write_items layout depth level fuel place items
        rest (each item (.head _)).1
      obtain ⟨closed, _⟩ := endsNumber_cons ']' rest (by simp)
      rw [opened]
      exact readItems_overflow lawful (level + 1) (endsNumber_lineBreak layout level closed) items
        item [] fuel start
        (fun other member => ⟨(each other member).1, (each other member).2 depth⟩) heavy (by omega)

/-! ## Objects -/

/-- A number ends where written fields go on. -/
theorem endsNumber_writeFields (lawful : layout.Lawful) (level : Nat)
    (fields : List (String × Json)) {tail : List Char} (ends : EndsNumber tail) :
    EndsNumber (writeFields layout level fields ++ tail) := by
  obtain ⟨blanks, comma, _⟩ := lawful.comma
  cases fields with
  | nil => exact ends
  | cons field fields =>
    rw [writeFields, comma]
    exact (endsNumber_cons ',' _ (by simp)).1

/-- Fields stop the reader if the value of the first of them does. -/
theorem readFields_overflow_first (lawful : layout.Lawful) (level fuel place : Nat)
    (found fields : List (String × Json)) (name : String) {value : Json} {tail : List Char}
    (ends : EndsNumber tail) (regular : Regular value) (overflows : Overflows layout depth value)
    (enough : (write layout level value).length ≤ fuel) :
    ∃ error, readFields depth (fuel + 1)
      ⟨writeString layout.ascii name ++ (layout.colon.toList ++ (write layout level value ++
        (writeFields layout level fields ++ tail))), place⟩ found =
          .error error ∧ error.AtLimit := by
  obtain ⟨start, label⟩ := readsName_write lawful place name
    (regular.settled layout level (writeFields layout level fields ++ tail))
  obtain ⟨error, stop, limit⟩ := overflows level fuel start _ enough
    (endsNumber_writeFields lawful level fields ends)
  exact ⟨error, label.stop found stop, limit⟩

/-- Fields stop the reader if the value of one of them cannot be held: those before it read back. -/
theorem readFields_overflow (lawful : layout.Lawful) (level : Nat) {tail : List Char}
    (ends : EndsNumber tail) (fields : List (String × Json)) :
    ∀ (name : String) (value : Json) (found : List (String × Json)) (fuel place : Nat),
      (∀ each ∈ (name, value) :: fields,
        Regular each.2 ∧ (¬Held depth each.2 → Overflows layout depth each.2)) →
      (∃ each ∈ (name, value) :: fields, ¬Held depth each.2) →
      (write layout level value).length + (writeFields layout level fields).length < fuel →
        ∃ error, readFields depth fuel
          ⟨writeString layout.ascii name ++ (layout.colon.toList ++ (write layout level value ++
            (writeFields layout level fields ++ tail))), place⟩ found =
              .error error ∧ error.AtLimit := by
  induction fields with
  | nil =>
    intro name value found fuel place each unheld enough
    obtain ⟨fuel, rfl⟩ : ∃ less, fuel = less + 1 := Nat.exists_eq_succ_of_ne_zero (by omega)
    obtain ⟨regular, overflows⟩ :
        Regular value ∧ (¬Held depth value → Overflows layout depth value) := each _ (.head _)
    have heavy : ¬Held depth value := by simpa using unheld
    exact readFields_overflow_first lawful level fuel place found [] name ends regular
      (overflows heavy) (by omega)
  | cons next fields ih =>
    obtain ⟨nextName, nextValue⟩ := next
    intro name value found fuel place each unheld enough
    obtain ⟨fuel, rfl⟩ : ∃ less, fuel = less + 1 := Nat.exists_eq_succ_of_ne_zero (by omega)
    obtain ⟨regular, overflows⟩ :
        Regular value ∧ (¬Held depth value → Overflows layout depth value) := each _ (.head _)
    have longer := length_writeFields_cons lawful level nextName nextValue fields
    by_cases held : Held depth value
    · obtain ⟨start, passed⟩ := readFields_pass lawful level fuel place found name nextName fields
        tail regular (held.readsBack lawful) (by omega)
      have later : ∃ each ∈ (nextName, nextValue) :: fields, ¬Held depth each.2 := by
        simpa [held] using unheld
      rw [passed]
      exact ih nextName nextValue (put found name value) fuel start
        (fun other member => each other (.tail _ member)) later (by omega)
    · exact readFields_overflow_first lawful level fuel place found
        ((nextName, nextValue) :: fields) name ends regular (overflows held) (by omega)

/-- An object that cannot be held stops the reader, if its values do that cannot be held. -/
theorem overflows_object (lawful : layout.Lawful) {fields : List (String × Json)}
    (distinct : (fields.map (·.1)).Nodup)
    (each : ∀ field ∈ fields,
      Regular field.2 ∧ ∀ depth, ¬Held depth field.2 → Overflows layout depth field.2)
    (unheld : ¬Held depth (.object fields)) : Overflows layout depth (.object fields) := by
  intro level fuel place rest enough ends
  obtain ⟨fuel, rfl⟩ :=
    (Regular.object distinct fun field member => (each field member).1).exists_fuel enough
  cases depth with
  | zero =>
    refine ⟨.tooDeep true, ?_, trivial⟩
    rcases fields with _ | ⟨⟨name, value⟩, fields⟩ <;>
      simp [write_object_nil, write_object_cons, readValue.eq_def]
  | succ depth =>
    cases fields with
    | nil => exact absurd (.object distinct (List.forall_mem_nil _)) unheld
    | cons field fields =>
      obtain ⟨name, value⟩ := field
      have heavy : ∃ each ∈ (name, value) :: fields, ¬Held depth each.2 := by
        by_contra light
        refine unheld (.object distinct fun other member => ?_)
        by_contra misfit
        exact light ⟨other, member, misfit⟩
      have longer := length_write_object layout level name value fields
      obtain ⟨start, opened⟩ := readValue_write_fields layout depth level fuel place
        name value fields rest
      obtain ⟨closed, _⟩ := endsNumber_cons '\x7d' rest (by simp)
      rw [opened]
      exact readFields_overflow lawful (level + 1) (endsNumber_lineBreak layout level closed) fields
        name value [] fuel start
        (fun other member => ⟨(each other member).1, (each other member).2 depth⟩) heavy (by omega)

/-! ## Values -/

/-- A regular value that cannot be held stops the reader. -/
theorem Regular.overflows (lawful : layout.Lawful) {json : Json} (regular : Regular json) :
    ∀ depth, ¬Held depth json → Overflows layout depth json := by
  induction regular with
  | null => exact fun depth unheld => absurd .null unheld
  | bool value => exact fun depth unheld => absurd (.bool value) unheld
  | string value => exact fun depth unheld => absurd (.string value) unheld
  | int value =>
    intro depth unheld
    exact overflows_int (Nat.lt_of_not_le fun short => unheld (.int short))
  | array each ih =>
    exact fun depth => overflows_array lawful fun item member => ⟨each item member, ih item member⟩
  | object distinct each ih =>
    exact fun depth => overflows_object lawful distinct fun field member =>
      ⟨each field member, ih field member⟩

/-- The text of a regular value that cannot be held stops the reader at a limit. -/
theorem Regular.read_text_overflow (lawful : layout.Lawful) {json : Json} (regular : Regular json)
    (unheld : ¬Held depth json) :
    ∃ error, read depth (json.text layout).toList = .error error ∧ error.AtLimit := by
  have settled := regular.settled layout 0 []
  rw [List.append_nil] at settled
  obtain ⟨error, stop, limit⟩ := regular.overflows lawful depth unheld 0
    ((write layout 0 json).length + 1) 0 [] (by omega) (by rintro _ ⟨⟩)
  rw [List.append_nil] at stop
  refine ⟨error, ?_, limit⟩
  rw [text, String.toList_ofList, read, skipBlanks_settled settled, stop]

/-- The text of a regular value reads as the value exactly if the value can be held. -/
theorem Regular.read_text_iff (lawful : layout.Lawful) {json : Json} (regular : Regular json) :
    read depth (json.text layout).toList = .ok json ↔ Held depth json := by
  refine ⟨fun accepted => ?_, read_text lawful⟩
  by_contra unheld
  obtain ⟨error, stop, _⟩ := regular.read_text_overflow lawful unheld
  rw [stop] at accepted
  contradiction

end CodeAtlas.Json
