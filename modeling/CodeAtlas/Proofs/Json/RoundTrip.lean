import CodeAtlas.Proofs.Json.Tokens

/-!
# Values read back

A text that the printer makes of a value reads as that value, in every layout, if the reader can
hold the value: `read_text`. A value is held if it has no floating-point numbers, its integers are
short, no two fields of an object have one name, and it is not nested too deeply.
-/
namespace CodeAtlas.Json

/-- A value without floating-point numbers whose objects give no name to two fields. -/
inductive Regular : Json → Prop where
  | null : Regular .null
  | bool (value : Bool) : Regular (.bool value)
  | string (value : String) : Regular (.string value)
  | int (value : Int) : Regular (.int value)
  | array {items : List Json} (each : ∀ item ∈ items, Regular item) : Regular (.array items)
  | object {fields : List (String × Json)} (distinct : (fields.map (·.1)).Nodup)
      (each : ∀ field ∈ fields, Regular field.2) : Regular (.object fields)

/-- A value that the reader can hold, with so many levels of nesting at most. -/
inductive Held {τ : Type} : Nat → Json τ → Prop where
  | null {depth : Nat} : Held depth .null
  | bool {depth : Nat} (value : Bool) : Held depth (.bool value)
  | string {depth : Nat} (value : τ) : Held depth (.string value)
  | int {depth : Nat} {value : Int}
      (short : (Nat.toDigits 10 value.natAbs).length ≤ digitLimit) : Held depth (.int value)
  | array {depth : Nat} {items : List (Json τ)} (each : ∀ item ∈ items, Held depth item) :
      Held (depth + 1) (.array items)
  | object {depth : Nat} {fields : List (τ × Json τ)} (distinct : (fields.map (·.1)).Nodup)
      (each : ∀ field ∈ fields, Held depth field.2) : Held (depth + 1) (.object fields)

/-- A value that is held is regular. -/
theorem Held.regular {depth : Nat} {json : Json} (held : Held depth json) : Regular json := by
  induction held with
  | null => exact .null
  | bool value => exact .bool value
  | string value => exact .string value
  | int _ => exact .int _
  | array _ ih => exact .array ih
  | object distinct _ ih => exact .object distinct ih

/-- A value that is held is held at a greater depth. -/
theorem Held.mono {τ : Type} {depth deeper : Nat} {json : Json τ} (held : Held depth json)
    (le : depth ≤ deeper) : Held deeper json := by
  induction held generalizing deeper with
  | null => exact .null
  | bool value => exact .bool value
  | string value => exact .string value
  | int short => exact .int short
  | array each ih =>
    obtain ⟨less, rfl⟩ := Nat.exists_eq_succ_of_ne_zero (by omega : deeper ≠ 0)
    exact .array fun item member => ih item member (Nat.le_of_succ_le_succ le)
  | object distinct each ih =>
    obtain ⟨less, rfl⟩ := Nat.exists_eq_succ_of_ne_zero (by omega : deeper ≠ 0)
    exact .object distinct fun field member => ih field member (Nat.le_of_succ_le_succ le)

/-- Commas and colons of a layout are followed by blanks at most. -/
structure Layout.Lawful (layout : Layout) : Prop where
  /-- A comma and blanks. -/
  comma : ∃ blanks, layout.comma.toList = ',' :: blanks ∧ ∀ blank ∈ blanks, isBlank blank = true
  /-- A colon and blanks. -/
  colon : ∃ blanks, layout.colon.toList = ':' :: blanks ∧ ∀ blank ∈ blanks, isBlank blank = true

/-- The layout of one line has a blank after each mark. -/
theorem Layout.spaced_lawful : Layout.spaced.Lawful :=
  ⟨⟨[' '], rfl, List.forall_mem_singleton.mpr rfl⟩,
    ⟨[' '], rfl, List.forall_mem_singleton.mpr rfl⟩⟩

/-- The layout of many lines has a blank after each colon. -/
theorem Layout.indented_lawful : Layout.indented.Lawful :=
  ⟨⟨[], rfl, List.forall_mem_nil _⟩, ⟨[' '], rfl, List.forall_mem_singleton.mpr rfl⟩⟩

/-! ## Blanks -/

/-- No blank stands here. -/
def Settled (rest : List Char) : Prop := ∀ char ∈ rest.head?, isBlank char = false

/-- Where no blank stands, none is skipped. -/
theorem skipBlanks_settled {rest : List Char} (settled : Settled rest) (place : Nat) :
    skipBlanks rest place = ⟨rest, place⟩ := by
  cases rest with
  | nil => rfl
  | cons char rest =>
    have token : isBlank char = false := settled char rfl
    simp [skipBlanks, token]

/-- Blanks before a token are skipped. -/
theorem skipBlanks_append {blanks rest : List Char} (blank : ∀ char ∈ blanks, isBlank char = true)
    (settled : Settled rest) (place : Nat) :
    ∃ after, skipBlanks (blanks ++ rest) place = ⟨rest, after⟩ := by
  induction blanks generalizing place with
  | nil => exact ⟨place, skipBlanks_settled settled place⟩
  | cons char blanks ih =>
    obtain ⟨after, skipped⟩ := ih (fun char member => blank char (.tail _ member)) (place + 1)
    refine ⟨after, ?_⟩
    rw [List.cons_append, skipBlanks, if_pos (blank char (.head _)), skipped]

/-- The line break of a layout is blank. -/
theorem isBlank_of_mem_lineBreak {layout : Layout} {level : Nat} {char : Char}
    (member : char ∈ lineBreak layout level) : isBlank char = true := by
  unfold lineBreak at member
  cases broken : layout.indent with
  | none => simp [broken] at member
  | some width =>
    simp only [broken, List.mem_cons, List.mem_replicate] at member
    rcases member with rfl | ⟨_, rfl⟩ <;> rfl

/-- A line break is skipped. -/
theorem skipBlanks_lineBreak {rest : List Char} (layout : Layout) (level place : Nat)
    (settled : Settled rest) :
    ∃ after, skipBlanks (lineBreak layout level ++ rest) place = ⟨rest, after⟩ :=
  skipBlanks_append (fun _ => isBlank_of_mem_lineBreak) settled place

/-- A number ends at a line break, or at a token that it cannot go on with. -/
theorem endsNumber_lineBreak (layout : Layout) (level : Nat) {rest : List Char}
    (ends : EndsNumber rest) : EndsNumber (lineBreak layout level ++ rest) := by
  unfold lineBreak
  cases layout.indent with
  | none => exact ends
  | some width =>
    rintro _ ⟨⟩
    decide

/-! ## Values without parts -/

/-- Digits are no other characters. -/
theorem ne_of_isDigit {digit char : Char} (isDigit : Json.isDigit digit = true)
    (other : Json.isDigit char = false) : digit ≠ char := by
  rintro rfl
  rw [isDigit] at other
  contradiction

/-- An integer is written with its decimals, after a sign if it is negative. -/
theorem write_int (layout : Layout) (level : Nat) (value : Int) :
    write layout level (.int value) =
      if value < 0 then '-' :: Nat.toDigits 10 value.natAbs else Nat.toDigits 10 value.natAbs := by
  rw [write, Int.toString_eq_repr, Int.repr_eq_if]
  by_cases negative : value < 0
  · have magnitude : (-value).toNat = value.natAbs := by omega
    rw [if_neg (Int.not_le.mpr negative), if_pos negative, magnitude]
    simp [Nat.repr_eq_ofList_toDigits]
  · have magnitude : value.toNat = value.natAbs := by omega
    rw [if_pos (Int.not_lt.mp negative), if_neg negative, magnitude]
    simp [Nat.repr_eq_ofList_toDigits]

/-- The words that are values begin with a letter, perhaps after a sign. -/
theorem exists_letter_of_mem_wordValues :
    ∀ entry ∈ wordValues, ∃ letter rest, isDigit letter = false ∧ letter ≠ '-' ∧
      (entry.1.toList = letter :: rest ∨ entry.1.toList = '-' :: letter :: rest) := by
  simp only [wordValues, List.mem_cons, List.not_mem_nil, or_false]
  rintro _ (rfl | rfl | rfl | rfl | rfl | rfl)
  · exact ⟨'n', _, rfl, by decide, .inl rfl⟩
  · exact ⟨'t', _, rfl, by decide, .inl rfl⟩
  · exact ⟨'f', _, rfl, by decide, .inl rfl⟩
  · exact ⟨'N', _, rfl, by decide, .inl rfl⟩
  · exact ⟨'I', _, rfl, by decide, .inl rfl⟩
  · exact ⟨'I', _, rfl, by decide, .inr rfl⟩

/-- No word that is a value begins like a number. -/
theorem wordValue?_of_isDigit {digit : Char} (rest : List Char) (isDigit : isDigit digit = true) :
    wordValue? (digit :: rest) = none ∧ wordValue? ('-' :: digit :: rest) = none := by
  have other (char : Char) (mark : Json.isDigit char = false) : (char == digit) = false :=
    beq_false_of_ne (ne_of_isDigit isDigit mark).symm
  simp only [wordValue?, List.findSome?_eq_none_iff]
  constructor <;> intro entry member <;>
    obtain ⟨letter, _, name, unsigned, spelling | spelling⟩ :=
      exists_letter_of_mem_wordValues entry member <;>
    simp [spelling, List.isPrefixOf, other letter name, other '-' rfl, unsigned]

/-- A written integer is read as the number of its decimals. -/
theorem readValue_write_int (layout : Layout) (depth level fuel place : Nat) (value : Int)
    (rest : List Char) :
    ∃ start, readValue depth (fuel + 1) ⟨write layout level (.int value) ++ rest, place⟩ =
      readNumber place (value < 0) (Nat.toDigits 10 value.natAbs ++ rest) start := by
  obtain ⟨digit, digits, split, isDigit, _⟩ := toDigits_head value.natAbs
  have words := wordValue?_of_isDigit (digits ++ rest) isDigit
  have other (char : Char) (mark : Json.isDigit char = false) : digit ≠ char :=
    ne_of_isDigit isDigit mark
  rw [write_int, split]
  by_cases negative : value < 0
  · refine ⟨place + 1, ?_⟩
    rw [if_pos negative, List.cons_append, List.cons_append, readValue.eq_def]
    simp [words.2, negative]
  · refine ⟨place, ?_⟩
    rw [if_neg negative, List.cons_append, readValue.eq_def]
    simp [other '"' rfl, other '\x7b' rfl, other '[' rfl, other '-' rfl, words.1, negative]

/-- A short integer reads as itself. -/
theorem readValue_int {depth fuel place level : Nat} {layout : Layout} {value : Int}
    {rest : List Char} (short : (Nat.toDigits 10 value.natAbs).length ≤ digitLimit)
    (ends : EndsNumber rest) :
    ∃ after, readValue depth (fuel + 1) ⟨write layout level (.int value) ++ rest, place⟩ =
      .ok (.int value, ⟨rest, after⟩) := by
  obtain ⟨start, number⟩ := readValue_write_int layout depth level fuel place value rest
  obtain ⟨after, read⟩ := readNumber_toDigits place start (value < 0) short ends
  have signed : (if decide (value < 0) then -(value.natAbs : Int) else value.natAbs) = value := by
    by_cases negative : value < 0
    · rw [if_pos (decide_eq_true negative)]
      omega
    · rw [if_neg (mt of_decide_eq_true negative)]
      omega
  refine ⟨after, ?_⟩
  rw [number, read, signed]

/-- A string reads as itself. -/
theorem readString_writeString (ascii : Bool) (start place : Nat) (text : String)
    (rest : List Char) :
    ∃ body after, writeString ascii text ++ rest = '"' :: body ∧
      readString start (body.length + 1) body place [] = .ok (text, ⟨rest, after⟩) := by
  have enough : text.toList.length <
      (text.toList.flatMap (writeChar ascii) ++ '"' :: rest).length + 1 := by
    have written := length_le_writeChars ascii text.toList
    rw [List.length_append]
    omega
  obtain ⟨after, read⟩ := readString_writeChars ascii start rest text.toList _ place [] enough
  refine ⟨text.toList.flatMap (writeChar ascii) ++ '"' :: rest, after, ?_, ?_⟩
  · simp [writeString]
  · rw [read, List.reverse_nil, List.nil_append, String.ofList_toList]

/-- A written value begins with a token that closes no list. -/
theorem Regular.write_head {json : Json} (regular : Regular json) (layout : Layout)
    (level : Nat) :
    ∃ char rest, write layout level json = char :: rest ∧ isBlank char = false ∧ char ≠ ']' := by
  cases regular with
  | null => exact ⟨'n', "ull".toList, rfl, rfl, by decide⟩
  | bool value =>
    cases value with
    | true => exact ⟨'t', "rue".toList, rfl, rfl, by decide⟩
    | false => exact ⟨'f', "alse".toList, rfl, rfl, by decide⟩
  | string value => exact ⟨'"', _, by rw [write_string, writeString]; rfl, rfl, by decide⟩
  | int value =>
    obtain ⟨digit, digits, split, isDigit, _⟩ := toDigits_head value.natAbs
    have other (char : Char) (mark : Json.isDigit char = false) : digit ≠ char :=
      ne_of_isDigit isDigit mark
    have token : isBlank digit = false := by
      simp [isBlank, other ' ' rfl, other '\t' rfl, other '\n' rfl, other '\r' rfl]
    rw [write_int]
    by_cases negative : value < 0
    · exact ⟨'-', _, if_pos negative, rfl, by decide⟩
    · exact ⟨digit, digits, by rw [if_neg negative, split], token, ne_of_isDigit isDigit rfl⟩
  | @array items _ =>
    cases items with
    | nil => exact ⟨'[', "]".toList, by simp [write_array_nil], rfl, by decide⟩
    | cons item items => exact ⟨'[', _, by rw [write_array_cons]; rfl, rfl, by decide⟩
  | @object fields _ _ =>
    cases fields with
    | nil => exact ⟨'\x7b', "\x7d".toList, by simp [write_object_nil], rfl, by decide⟩
    | cons field fields => exact ⟨'\x7b', _, by rw [write_object_cons]; rfl, rfl, by decide⟩

/-! ## Lists and objects -/

/-- A written value reads as itself, with a bound on its length for fuel, before whatever a number
cannot go on with. -/
def ReadsBack (layout : Layout) (depth : Nat) (json : Json) : Prop :=
  ∀ (level fuel place : Nat) (rest : List Char), (write layout level json).length ≤ fuel →
    EndsNumber rest →
      ∃ after, readValue depth fuel ⟨write layout level json ++ rest, place⟩ =
        .ok (json, ⟨rest, after⟩)

variable {layout : Layout} {depth : Nat}

/-- A number ends before these marks, and no blank is one of them. -/
theorem endsNumber_cons (char : Char) (rest : List Char) (mark : char ∈ [',', ']', '\x7d']) :
    EndsNumber (char :: rest) ∧ Settled (char :: rest) := by
  simp only [List.mem_cons, List.not_mem_nil, or_false] at mark
  rcases mark with rfl | rfl | rfl <;> exact ⟨by rintro _ ⟨⟩; decide, by rintro _ ⟨⟩; decide⟩

/-- Where a written value begins, there is no blank. -/
theorem Regular.settled {json : Json} (regular : Regular json) (layout : Layout) (level : Nat)
    (rest : List Char) : Settled (write layout level json ++ rest) := by
  obtain ⟨char, tail, written, token, _⟩ := regular.write_head layout level
  rw [written]
  rintro _ ⟨⟩
  exact token

/-- The blanks after a mark are skipped, with the line break before the next token. -/
theorem skipBlanks_gap {blanks rest : List Char} (layout : Layout) (level place : Nat)
    (blank : ∀ char ∈ blanks, isBlank char = true) (settled : Settled rest) :
    ∃ after, skipBlanks (blanks ++ (lineBreak layout level ++ rest)) place = ⟨rest, after⟩ := by
  rw [← List.append_assoc]
  refine skipBlanks_append (fun char member => ?_) settled place
  rcases List.mem_append.mp member with member | member
  · exact blank char member
  · exact isBlank_of_mem_lineBreak member

/-- A closing mark after an item ends the list. -/
theorem readItems_last {fuel place middle last : Nat} {text tail rest : List Char} {item : Json}
    (found : List Json) (first : readValue depth fuel ⟨text, place⟩ = .ok (item, ⟨tail, middle⟩))
    (trimmed : skipBlanks tail middle = ⟨']' :: rest, last⟩) :
    readItems depth (fuel + 1) ⟨text, place⟩ found =
      .ok (.array (found.reverse ++ [item]), ⟨rest, last + 1⟩) := by
  rw [readItems]
  simp [first, Input.trim, trimmed]

/-- A comma after an item leads to the next one. -/
theorem readItems_next {fuel place middle last : Nat} {text tail rest : List Char} {item : Json}
    (found : List Json) (first : readValue depth fuel ⟨text, place⟩ = .ok (item, ⟨tail, middle⟩))
    (trimmed : skipBlanks tail middle = ⟨',' :: rest, last⟩) :
    readItems depth (fuel + 1) ⟨text, place⟩ found =
      readItems depth fuel (skipBlanks rest (last + 1)) (item :: found) := by
  rw [readItems]
  simp [first, Input.trim, trimmed]

/-- An item that stops the reader stops the list. -/
theorem readItems_stop {fuel place : Nat} {text : List Char} {error : ReadError}
    (found : List Json) (stop : readValue depth fuel ⟨text, place⟩ = .error error) :
    readItems depth (fuel + 1) ⟨text, place⟩ found = .error error := by
  rw [readItems]
  simp [stop]

/-- A written item that reads back leads to the next one. -/
theorem readItems_pass (lawful : layout.Lawful) (level fuel place : Nat) (found : List Json)
    {item next : Json} (items : List Json) (tail : List Char) (reads : ReadsBack layout depth item)
    (regular : Regular next) (enough : (write layout level item).length ≤ fuel) :
    ∃ start, readItems depth (fuel + 1)
        ⟨write layout level item ++ (writeItems layout level (next :: items) ++ tail), place⟩
          found =
      readItems depth fuel
        ⟨write layout level next ++ (writeItems layout level items ++ tail), start⟩
          (item :: found) := by
  obtain ⟨blanks, comma, blank⟩ := lawful.comma
  have written : writeItems layout level (next :: items) =
      ',' :: (blanks ++ (lineBreak layout level ++
        (write layout level next ++ writeItems layout level items))) := by
    simp [writeItems, comma]
  simp only [written, List.cons_append, List.append_assoc]
  obtain ⟨ends, settled⟩ := endsNumber_cons ',' (blanks ++ (lineBreak layout level ++
    (write layout level next ++ (writeItems layout level items ++ tail)))) (by simp)
  obtain ⟨middle, first⟩ := reads level fuel place _ enough ends
  have trimmed := skipBlanks_settled settled middle
  obtain ⟨start, skipped⟩ := skipBlanks_gap layout level (middle + 1) blank
    (regular.settled layout level (writeItems layout level items ++ tail))
  refine ⟨start, ?_⟩
  rw [readItems_next found first trimmed, skipped]

/-- The items after the first are written longer than the first of them. -/
theorem length_writeItems_cons (lawful : layout.Lawful) (level : Nat) (next : Json)
    (items : List Json) :
    (write layout level next).length + (writeItems layout level items).length <
      (writeItems layout level (next :: items)).length := by
  obtain ⟨blanks, comma, _⟩ := lawful.comma
  simp only [writeItems, comma, List.length_append, List.length_cons]
  omega

/-- Written items read as themselves, after those found. -/
theorem readItems_write (lawful : layout.Lawful) (level outer : Nat) (rest : List Char)
    (items : List Json) :
    ∀ (item : Json) (found : List Json) (fuel place : Nat),
      (∀ each ∈ item :: items, Regular each ∧ ReadsBack layout depth each) →
      (write layout level item).length + (writeItems layout level items).length < fuel →
        ∃ after, readItems depth fuel
          ⟨write layout level item ++ (writeItems layout level items ++
            (lineBreak layout outer ++ ']' :: rest)), place⟩ found =
          .ok (.array (found.reverse ++ item :: items), ⟨rest, after⟩) := by
  induction items with
  | nil =>
    intro item found fuel place each enough
    obtain ⟨fuel, rfl⟩ : ∃ less, fuel = less + 1 := Nat.exists_eq_succ_of_ne_zero (by omega)
    obtain ⟨ends, settled⟩ := endsNumber_cons ']' rest (by simp)
    obtain ⟨middle, first⟩ := (each item (.head _)).2 level fuel place
      (lineBreak layout outer ++ ']' :: rest) (by omega) (endsNumber_lineBreak layout outer ends)
    obtain ⟨last, trimmed⟩ := skipBlanks_lineBreak layout outer middle settled
    exact ⟨last + 1, readItems_last found first trimmed⟩
  | cons next items ih =>
    intro item found fuel place each enough
    obtain ⟨fuel, rfl⟩ : ∃ less, fuel = less + 1 := Nat.exists_eq_succ_of_ne_zero (by omega)
    have longer := length_writeItems_cons lawful level next items
    obtain ⟨start, passed⟩ := readItems_pass lawful level fuel place found items
      (lineBreak layout outer ++ ']' :: rest) (each item (.head _)).2
      (each next (.tail _ (.head _))).1 (by omega)
    obtain ⟨after, others⟩ := ih next (item :: found) fuel start
      (fun other member => each other (.tail _ member)) (by omega)
    refine ⟨after, ?_⟩
    rw [passed, others]
    simp

/-- A field with a new name is put after the others. -/
theorem put_of_not_mem {fields : List (String × Json)} {name : String} (value : Json)
    (fresh : name ∉ fields.map (·.1)) : put fields name value = fields ++ [(name, value)] := by
  induction fields with
  | nil => rfl
  | cons field fields ih =>
    simp only [List.map_cons, List.mem_cons, not_or] at fresh
    rw [put, if_neg (Ne.symm fresh.1), ih fresh.2]
    rfl

/-- A name that stands once among fields is new to those before it. -/
theorem fresh_of_nodup {found fields : List (String × Json)} {name : String} {value : Json}
    (distinct : ((found ++ (name, value) :: fields).map (·.1)).Nodup) :
    name ∉ found.map (·.1) := by
  intro member
  simp only [List.map_append, List.map_cons, List.nodup_append] at distinct
  exact distinct.2.2 name member name (.head _) rfl

/-- What is read of a field before its value: a name in quotes, a colon, and blanks. -/
def ReadsName (place : Nat) (text : List Char) (name : String) (tail : List Char)
    (start : Nat) : Prop :=
  ∃ body rest after named coloned, text = '"' :: body ∧
    readString place (body.length + 1) body (place + 1) [] = .ok (name, ⟨rest, named⟩) ∧
    skipBlanks rest named = ⟨':' :: after, coloned⟩ ∧
    skipBlanks after (coloned + 1) = ⟨tail, start⟩

section Fields

variable {fuel place start middle marked : Nat} {name : String} {value : Json}
  {text after tail rest : List Char}

/-- A closing mark after a field ends the object. -/
theorem ReadsName.last (label : ReadsName place text name after start)
    (found : List (String × Json))
    (first : readValue depth fuel ⟨after, start⟩ = .ok (value, ⟨tail, middle⟩))
    (trimmed : skipBlanks tail middle = ⟨'\x7d' :: rest, marked⟩) :
    readFields depth (fuel + 1) ⟨text, place⟩ found =
      .ok (.object (put found name value), ⟨rest, marked + 1⟩) := by
  obtain ⟨body, _, _, _, _, rfl, quoted, colon, gap⟩ := label
  rw [readFields]
  simp [quoted, Input.trim, colon, gap, first, trimmed]

/-- A comma after a field leads to the next one. -/
theorem ReadsName.next (label : ReadsName place text name after start)
    (found : List (String × Json))
    (first : readValue depth fuel ⟨after, start⟩ = .ok (value, ⟨tail, middle⟩))
    (trimmed : skipBlanks tail middle = ⟨',' :: rest, marked⟩) :
    readFields depth (fuel + 1) ⟨text, place⟩ found =
      readFields depth fuel (skipBlanks rest (marked + 1)) (put found name value) := by
  obtain ⟨body, _, _, _, _, rfl, quoted, colon, gap⟩ := label
  rw [readFields]
  simp [quoted, Input.trim, colon, gap, first, trimmed]

/-- A field whose value stops the reader stops the object. -/
theorem ReadsName.stop {error : ReadError} (label : ReadsName place text name after start)
    (found : List (String × Json))
    (stop : readValue depth fuel ⟨after, start⟩ = .error error) :
    readFields depth (fuel + 1) ⟨text, place⟩ found = .error error := by
  obtain ⟨body, _, _, _, _, rfl, quoted, colon, gap⟩ := label
  rw [readFields]
  simp [quoted, Input.trim, colon, gap, stop]

/-- A written name is read up to its value. -/
theorem readsName_write (lawful : layout.Lawful) (place : Nat) (name : String)
    (settled : Settled rest) :
    ∃ start, ReadsName place (writeString layout.ascii name ++ (layout.colon.toList ++ rest)) name
      rest start := by
  obtain ⟨gap, colon, blank⟩ := lawful.colon
  obtain ⟨body, named, quoted, label⟩ := readString_writeString layout.ascii place (place + 1) name
    (layout.colon.toList ++ rest)
  rw [colon, List.cons_append] at label quoted
  have mark : Settled (':' :: (gap ++ rest)) := by
    rintro _ ⟨⟩
    rfl
  obtain ⟨start, skipped⟩ := skipBlanks_append blank settled (named + 1)
  rw [colon, List.cons_append, quoted]
  exact ⟨start, body, _, _, _, _, rfl, label, skipBlanks_settled mark named, skipped⟩

/-- A written field that reads back leads to the next one. -/
theorem readFields_pass (lawful : layout.Lawful) (level fuel place : Nat)
    (found : List (String × Json)) (name nextName : String) {value nextValue : Json}
    (fields : List (String × Json)) (tail : List Char) (regular : Regular value)
    (reads : ReadsBack layout depth value) (enough : (write layout level value).length ≤ fuel) :
    ∃ start, readFields depth (fuel + 1)
        ⟨writeString layout.ascii name ++ (layout.colon.toList ++ (write layout level value ++
          (writeFields layout level ((nextName, nextValue) :: fields) ++ tail))), place⟩ found =
      readFields depth fuel
        ⟨writeString layout.ascii nextName ++ (layout.colon.toList ++
          (write layout level nextValue ++ (writeFields layout level fields ++ tail))), start⟩
            (put found name value) := by
  obtain ⟨blanks, comma, blank⟩ := lawful.comma
  have written : writeFields layout level ((nextName, nextValue) :: fields) = ',' :: (blanks ++
      (lineBreak layout level ++ (writeString layout.ascii nextName ++ (layout.colon.toList ++
        (write layout level nextValue ++ writeFields layout level fields))))) := by
    simp [writeFields, comma]
  simp only [written, List.cons_append, List.append_assoc]
  obtain ⟨ends, settled⟩ := endsNumber_cons ',' (blanks ++ (lineBreak layout level ++
    (writeString layout.ascii nextName ++ (layout.colon.toList ++
      (write layout level nextValue ++ (writeFields layout level fields ++ tail)))))) (by simp)
  obtain ⟨start, label⟩ :=
    readsName_write lawful place name (regular.settled layout level (',' :: (blanks ++
      (lineBreak layout level ++ (writeString layout.ascii nextName ++ (layout.colon.toList ++
        (write layout level nextValue ++ (writeFields layout level fields ++ tail))))))))
  obtain ⟨middle, first⟩ := reads level fuel start _ enough ends
  have trimmed := skipBlanks_settled settled middle
  have quoted : Settled (writeString layout.ascii nextName ++ (layout.colon.toList ++
      (write layout level nextValue ++ (writeFields layout level fields ++ tail)))) := by
    rintro _ ⟨⟩
    rfl
  obtain ⟨onward, skipped⟩ := skipBlanks_gap layout level (middle + 1) blank quoted
  refine ⟨onward, ?_⟩
  rw [label.next found first trimmed, skipped]

/-- The fields after the first are written longer than the first value of them. -/
theorem length_writeFields_cons (lawful : layout.Lawful) (level : Nat) (name : String)
    (value : Json) (fields : List (String × Json)) :
    (write layout level value).length + (writeFields layout level fields).length <
      (writeFields layout level ((name, value) :: fields)).length := by
  obtain ⟨blanks, comma, _⟩ := lawful.comma
  simp only [writeFields, comma, List.length_append, List.length_cons]
  omega

end Fields

/-- Written fields read as themselves, after those found. -/
theorem readFields_write (lawful : layout.Lawful) (level outer : Nat) (rest : List Char)
    (fields : List (String × Json)) :
    ∀ (name : String) (value : Json) (found : List (String × Json)) (fuel place : Nat),
      (∀ each ∈ (name, value) :: fields, Regular each.2 ∧ ReadsBack layout depth each.2) →
      ((found ++ (name, value) :: fields).map (·.1)).Nodup →
      (write layout level value).length + (writeFields layout level fields).length < fuel →
        ∃ after, readFields depth fuel
          ⟨writeString layout.ascii name ++ (layout.colon.toList ++
            (write layout level value ++ (writeFields layout level fields ++
              (lineBreak layout outer ++ '\x7d' :: rest)))), place⟩ found =
          .ok (.object (found ++ (name, value) :: fields), ⟨rest, after⟩) := by
  induction fields with
  | nil =>
    intro name value found fuel place each distinct enough
    obtain ⟨fuel, rfl⟩ : ∃ less, fuel = less + 1 := Nat.exists_eq_succ_of_ne_zero (by omega)
    obtain ⟨regular, reads⟩ : Regular value ∧ ReadsBack layout depth value := each _ (.head _)
    obtain ⟨ends, settled⟩ := endsNumber_cons '\x7d' rest (by simp)
    obtain ⟨start, label⟩ := readsName_write lawful place name
      (regular.settled layout level (lineBreak layout outer ++ '\x7d' :: rest))
    obtain ⟨middle, first⟩ := reads level fuel start _ (by omega)
      (endsNumber_lineBreak layout outer ends)
    obtain ⟨last, trimmed⟩ := skipBlanks_lineBreak layout outer middle settled
    refine ⟨last + 1, ?_⟩
    rw [writeFields, List.nil_append, label.last found first trimmed, put_of_not_mem value ?_]
    exact fresh_of_nodup distinct
  | cons next fields ih =>
    obtain ⟨nextName, nextValue⟩ := next
    intro name value found fuel place each distinct enough
    obtain ⟨fuel, rfl⟩ : ∃ less, fuel = less + 1 := Nat.exists_eq_succ_of_ne_zero (by omega)
    obtain ⟨regular, reads⟩ : Regular value ∧ ReadsBack layout depth value := each _ (.head _)
    have longer := length_writeFields_cons lawful level nextName nextValue fields
    obtain ⟨start, passed⟩ := readFields_pass lawful level fuel place found name nextName fields
      (lineBreak layout outer ++ '\x7d' :: rest) regular reads (by omega)
    have split : (found ++ [(name, value)]) ++ (nextName, nextValue) :: fields =
        found ++ (name, value) :: (nextName, nextValue) :: fields := by simp
    obtain ⟨after, others⟩ := ih nextName nextValue (found ++ [(name, value)]) fuel start
      (fun other member => each other (.tail _ member)) (by rw [split]; exact distinct) (by omega)
    refine ⟨after, ?_⟩
    rw [passed, put_of_not_mem value (fresh_of_nodup distinct), others, split]

/-! ## Values -/

/-- A word that is a value reads as it. -/
theorem readValue_word {word : String} {value : Json} (member : (word, value) ∈ wordValues.take 3)
    (fuel place : Nat) (rest : List Char) :
    ∃ after, readValue depth (fuel + 1) ⟨word.toList ++ rest, place⟩ =
      .ok (value, ⟨rest, after⟩) := by
  simp only [wordValues, List.take_succ_cons, List.take_zero, List.mem_cons, Prod.mk.injEq,
    List.not_mem_nil, or_false] at member
  rcases member with ⟨rfl, rfl⟩ | ⟨rfl, rfl⟩ | ⟨rfl, rfl⟩ <;> exact ⟨_, rfl⟩

/-- A list with an item is read item by item. -/
theorem readValue_items {fuel place start : Nat} {char : Char} {text rest : List Char}
    (opened : skipBlanks text (place + 1) = ⟨char :: rest, start⟩) (item : char ≠ ']') :
    readValue (depth + 1) (fuel + 1) ⟨'[' :: text, place⟩ =
      readItems depth fuel ⟨char :: rest, start⟩ [] := by
  rw [readValue.eq_def]
  simp [opened, item]

/-- An object with a field is read field by field. -/
theorem readValue_fields {fuel place start : Nat} {char : Char} {text rest : List Char}
    (opened : skipBlanks text (place + 1) = ⟨char :: rest, start⟩) (field : char ≠ '\x7d') :
    readValue (depth + 1) (fuel + 1) ⟨'\x7b' :: text, place⟩ =
      readFields depth fuel ⟨char :: rest, start⟩ [] := by
  rw [readValue.eq_def]
  simp [opened, field]

/-- The fuel for a written value is not zero. -/
theorem Regular.exists_fuel {json : Json} (regular : Regular json) {level fuel : Nat}
    (enough : (write layout level json).length ≤ fuel) : ∃ less, fuel = less + 1 := by
  obtain ⟨char, rest, written, _, _⟩ := regular.write_head layout level
  rw [written, List.length_cons] at enough
  exact Nat.exists_eq_succ_of_ne_zero (by omega)

/-- A written list with items is read from its first item on. -/
theorem readValue_write_items (layout : Layout) (depth level fuel place : Nat) {item : Json}
    (items : List Json) (rest : List Char) (regular : Regular item) :
    ∃ start, readValue (depth + 1) (fuel + 1)
        ⟨write layout level (.array (item :: items)) ++ rest, place⟩ =
      readItems depth fuel ⟨write layout (level + 1) item ++
        (writeItems layout (level + 1) items ++ (lineBreak layout level ++ ']' :: rest)), start⟩
          [] := by
  have written : write layout level (.array (item :: items)) ++ rest = '[' ::
      (lineBreak layout (level + 1) ++ (write layout (level + 1) item ++
        (writeItems layout (level + 1) items ++ (lineBreak layout level ++ ']' :: rest)))) := by
    simp [write_array_cons]
  obtain ⟨start, skipped⟩ := skipBlanks_lineBreak layout (level + 1) (place + 1)
    (regular.settled layout (level + 1)
      (writeItems layout (level + 1) items ++ (lineBreak layout level ++ ']' :: rest)))
  obtain ⟨char, tail, first, _, opens⟩ := regular.write_head layout (level + 1)
  rw [first, List.cons_append] at skipped
  refine ⟨start, ?_⟩
  rw [written, first, List.cons_append, readValue_items skipped opens]

/-- A written object with fields is read from its first field on. -/
theorem readValue_write_fields (layout : Layout) (depth level fuel place : Nat) (name : String)
    (value : Json) (fields : List (String × Json)) (rest : List Char) :
    ∃ start, readValue (depth + 1) (fuel + 1)
        ⟨write layout level (.object ((name, value) :: fields)) ++ rest, place⟩ =
      readFields depth fuel ⟨writeString layout.ascii name ++ (layout.colon.toList ++
        (write layout (level + 1) value ++ (writeFields layout (level + 1) fields ++
          (lineBreak layout level ++ '\x7d' :: rest)))), start⟩ [] := by
  have written : write layout level (.object ((name, value) :: fields)) ++ rest = '\x7b' ::
      (lineBreak layout (level + 1) ++ (writeString layout.ascii name ++
        (layout.colon.toList ++ (write layout (level + 1) value ++
          (writeFields layout (level + 1) fields ++
            (lineBreak layout level ++ '\x7d' :: rest)))))) := by
    simp [write_object_cons]
  have quoted : Settled (writeString layout.ascii name ++ (layout.colon.toList ++
      (write layout (level + 1) value ++ (writeFields layout (level + 1) fields ++
        (lineBreak layout level ++ '\x7d' :: rest))))) := by
    rintro _ ⟨⟩
    rfl
  obtain ⟨start, skipped⟩ := skipBlanks_lineBreak layout (level + 1) (place + 1) quoted
  refine ⟨start, ?_⟩
  rw [written, readValue_fields skipped (by decide)]
  rfl

/-- A list with items is written longer than its items. -/
theorem length_write_array (layout : Layout) (level : Nat) (item : Json) (items : List Json) :
    (write layout (level + 1) item).length + (writeItems layout (level + 1) items).length + 1 <
      (write layout level (.array (item :: items))).length := by
  simp only [write_array_cons, List.cons_append, List.length_append, List.length_cons,
    List.length_nil]
  omega

/-- An object with fields is written longer than their values. -/
theorem length_write_object (layout : Layout) (level : Nat) (name : String) (value : Json)
    (fields : List (String × Json)) :
    (write layout (level + 1) value).length + (writeFields layout (level + 1) fields).length + 1 <
      (write layout level (.object ((name, value) :: fields))).length := by
  simp only [write_object_cons, List.cons_append, List.length_append, List.length_cons,
    List.length_nil]
  omega

/-- A list reads back if its items do. -/
theorem readsBack_array (lawful : layout.Lawful) {items : List Json}
    (each : ∀ item ∈ items, Regular item ∧ ReadsBack layout depth item) :
    ReadsBack layout (depth + 1) (.array items) := by
  intro level fuel place rest enough ends
  obtain ⟨fuel, rfl⟩ := (Regular.array fun item member => (each item member).1).exists_fuel enough
  cases items with
  | nil =>
    rw [write_array_nil, readValue.eq_def]
    exact ⟨_, rfl⟩
  | cons item items =>
    have longer := length_write_array layout level item items
    obtain ⟨start, opened⟩ := readValue_write_items layout depth level fuel place items
      rest (each item (.head _)).1
    rw [opened]
    exact readItems_write lawful (level + 1) level rest items item [] fuel start each (by omega)

/-- An object of fields with different names reads back if their values do. -/
theorem readsBack_object (lawful : layout.Lawful) {fields : List (String × Json)}
    (distinct : (fields.map (·.1)).Nodup)
    (each : ∀ field ∈ fields, Regular field.2 ∧ ReadsBack layout depth field.2) :
    ReadsBack layout (depth + 1) (.object fields) := by
  intro level fuel place rest enough ends
  obtain ⟨fuel, rfl⟩ :=
    (Regular.object distinct fun field member => (each field member).1).exists_fuel enough
  cases fields with
  | nil =>
    rw [write_object_nil, readValue.eq_def]
    exact ⟨_, rfl⟩
  | cons field fields =>
    obtain ⟨name, value⟩ := field
    have longer := length_write_object layout level name value fields
    obtain ⟨start, opened⟩ := readValue_write_fields layout depth level fuel place name
      value fields rest
    rw [opened]
    exact readFields_write lawful (level + 1) level rest fields name value [] fuel start each
      distinct (by omega)

/-- A value that is held reads back in every layout whose marks are followed by blanks only. -/
theorem Held.readsBack (lawful : layout.Lawful) {json : Json} (held : Held depth json) :
    ReadsBack layout depth json := by
  induction held with
  | @null depth =>
    intro level fuel place rest enough ends
    obtain ⟨fuel, rfl⟩ := Regular.null.exists_fuel enough
    exact readValue_word (.head _) fuel place rest
  | @bool depth value =>
    intro level fuel place rest enough ends
    obtain ⟨fuel, rfl⟩ := (Regular.bool value).exists_fuel enough
    cases value with
    | true => exact readValue_word (.tail _ (.head _)) fuel place rest
    | false => exact readValue_word (.tail _ (.tail _ (.head _))) fuel place rest
  | @string depth value =>
    intro level fuel place rest enough ends
    obtain ⟨fuel, rfl⟩ := (Regular.string value).exists_fuel enough
    obtain ⟨body, after, quoted, read⟩ :=
      readString_writeString layout.ascii place (place + 1) value rest
    refine ⟨after, ?_⟩
    rw [write_string, quoted, readValue.eq_def]
    simp [read]
  | @int depth value short =>
    intro level fuel place rest enough ends
    obtain ⟨fuel, rfl⟩ := (Regular.int value).exists_fuel enough
    exact readValue_int short ends
  | array each ih =>
    exact readsBack_array lawful fun item member => ⟨(each item member).regular, ih item member⟩
  | object distinct each ih =>
    exact readsBack_object lawful distinct fun field member =>
      ⟨(each field member).regular, ih field member⟩

/-- The text of a value that is held reads as the value. -/
theorem read_text (lawful : layout.Lawful) {json : Json} (held : Held depth json) :
    read depth (json.text layout).toList = .ok json := by
  have settled := held.regular.settled layout 0 []
  rw [List.append_nil] at settled
  obtain ⟨after, value⟩ := held.readsBack lawful 0 ((write layout 0 json).length + 1) 0 []
    (by omega) (by rintro _ ⟨⟩)
  rw [List.append_nil] at value
  rw [text, String.toList_ofList, read, skipBlanks_settled settled]
  simp [value, Input.trim, skipBlanks]

end CodeAtlas.Json
