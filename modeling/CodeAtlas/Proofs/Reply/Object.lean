import CodeAtlas.Proofs.Json.Overflow
import CodeAtlas.Proofs.Json.Writing
import CodeAtlas.Reply.Answer
import Mathlib.Data.List.TakeWhile

/-!
# The object in a text

Whatever stands around a written object is ignored, as long as no brace opens before it and none
closes after it. So a regular object comes back out of a text exactly if the reader can hold it:
`object_around_text_iff`. What a text gives otherwise names the text or a limit of the reader.
-/
namespace CodeAtlas.Reply

open Json (Held Layout ReadError Regular)

variable {levels : Nat}

/-! ## Excerpts -/

/-- What has no mark is dropped whole. -/
theorem dropWhile_eq_nil_of_unmarked {mark : Char} {text : List Char} (absent : mark ∉ text) :
    text.dropWhile (· ≠ mark) = [] := by
  refine List.dropWhile_eq_nil_iff.mpr fun char member => ?_
  exact decide_eq_true fun same => absent (same ▸ member)

/-- What has no mark is dropped before one. -/
theorem dropWhile_append_mark {mark : Char} {before : List Char} (absent : mark ∉ before)
    (rest : List Char) :
    (before ++ mark :: rest).dropWhile (· ≠ mark) = mark :: rest := by
  have others : ∀ char ∈ before, decide (char ≠ mark) = true :=
    fun char member => decide_eq_true fun same => absent (same ▸ member)
  rw [List.dropWhile_append_of_pos others]
  exact List.dropWhile_cons_of_neg (by simp)

/-- A text has a last mark, or none. -/
theorem exists_last_mark {mark : Char} {text : List Char} (present : mark ∈ text) :
    ∃ inner after, text = inner ++ mark :: after ∧ mark ∉ after := by
  obtain ⟨after, inner, split, absent⟩ :=
    List.eq_append_cons_of_mem (List.mem_reverse.mpr present)
  refine ⟨inner.reverse, after.reverse, ?_, by simpa using absent⟩
  rw [← List.reverse_reverse text, split]
  simp

/-- The excerpt of a text is what stands between braces, with the braces, if none opens before it
and none closes after it. -/
theorem excerpt?_around (inner : List Char) {before after : List Char} (unopened : '\x7b' ∉ before)
    (unclosed : '\x7d' ∉ after) :
    excerpt? (before ++ ('\x7b' :: inner ++ '\x7d' :: after)) =
      some ('\x7b' :: inner ++ ['\x7d']) := by
  have backwards : ('\x7b' :: (inner ++ '\x7d' :: after)).reverse =
      after.reverse ++ '\x7d' :: (inner.reverse ++ ['\x7b']) := by simp
  have closed := dropWhile_append_mark (List.mem_reverse.not.mpr unclosed)
    (inner.reverse ++ ['\x7b'])
  simp only [excerpt?, List.cons_append, dropWhile_append_mark unopened, backwards, closed]
  simp

/-- A text has an excerpt exactly if a brace closes after one opens: from the first that opens to
the last that closes. -/
theorem excerpt?_eq_some_iff {text excerpt : List Char} :
    excerpt? text = some excerpt ↔
      ∃ before inner after, text = before ++ ('\x7b' :: inner ++ '\x7d' :: after) ∧
        '\x7b' ∉ before ∧ '\x7d' ∉ after ∧ excerpt = '\x7b' :: inner ++ ['\x7d'] := by
  constructor
  · intro found
    by_cases opens : '\x7b' ∈ text
    · obtain ⟨before, rest, rfl, unopened⟩ := List.eq_append_cons_of_mem opens
      by_cases closes : '\x7d' ∈ rest
      · obtain ⟨inner, after, rfl, unclosed⟩ := exists_last_mark closes
        have whole := excerpt?_around inner unopened unclosed
        rw [List.cons_append] at whole
        rw [whole] at found
        exact ⟨before, inner, after, rfl, unopened, unclosed, (Option.some.inj found).symm⟩
      · have unclosed : '\x7d' ∉ ('\x7b' :: rest).reverse := by simpa using closes
        simp only [excerpt?, dropWhile_append_mark unopened,
          dropWhile_eq_nil_of_unmarked unclosed] at found
        contradiction
    · simp only [excerpt?, dropWhile_eq_nil_of_unmarked opens] at found
      contradiction
  · rintro ⟨before, inner, after, rfl, unopened, unclosed, rfl⟩
    exact excerpt?_around inner unopened unclosed

/-- An object is written between braces. -/
theorem exists_inner_of_text (layout : Layout) (fields : List (String × Json)) :
    ∃ inner, ((Json.object fields).text layout).toList = '\x7b' :: inner ++ ['\x7d'] := by
  rw [Json.text, String.toList_ofList]
  cases fields with
  | nil => exact ⟨[], rfl⟩
  | cons field rest =>
    obtain ⟨name, value⟩ := field
    rw [Json.write_object_cons]
    exact ⟨_, rfl⟩

/-- The excerpt of a text around a written object is the written object. -/
theorem excerpt?_around_text (before after : String) (unopened : '\x7b' ∉ before.toList)
    (unclosed : '\x7d' ∉ after.toList) (layout : Layout) (fields : List (String × Json)) :
    excerpt? (before ++ (Json.object fields).text layout ++ after).toList =
      some ((Json.object fields).text layout).toList := by
  obtain ⟨inner, framed⟩ := exists_inner_of_text layout fields
  have around := excerpt?_around inner unopened unclosed
  simpa [String.toList_append, framed] using around

/-! ## Objects -/

/-- What stops the reader in the excerpt of a text, as a fault of the reply. -/
def Fault.ofRead (text : String) (excerpt : List Char) : ReadError → Fault
  | .syntaxFault fault place => .notJson text excerpt fault place
  | error => .tooLarge excerpt error

/-- The object in a text is what its excerpt reads as. -/
theorem object_of_excerpt? {text : String} {excerpt : List Char}
    (found : excerpt? text.toList = some excerpt) :
    object levels text = (Json.read levels excerpt).mapError (.ofRead text excerpt) := by
  simp only [object, found]
  cases Json.read levels excerpt with
  | ok value => rfl
  | error error => cases error <;> rfl

/-- A text without an excerpt has no object. -/
theorem object_of_no_excerpt? {text : String} (missing : excerpt? text.toList = none) :
    object levels text = .error (.noObject text) := by
  simp only [object, missing]

/-- A text has an object exactly if its excerpt can be read. -/
theorem object_eq_ok_iff {text : String} {value : Json} :
    object levels text = .ok value ↔
      ∃ excerpt, excerpt? text.toList = some excerpt ∧ Json.read levels excerpt = .ok value := by
  cases found : excerpt? text.toList with
  | none => simp [object_of_no_excerpt? found]
  | some excerpt =>
    rw [object_of_excerpt? found]
    cases read : Json.read levels excerpt <;> simp [Except.mapError, read]

/-- What is read from a text is an object. -/
theorem exists_fields_of_object {text : String} {value : Json}
    (found : object levels text = .ok value) : ∃ fields, value = .object fields := by
  obtain ⟨excerpt, between, read⟩ := object_eq_ok_iff.mp found
  obtain ⟨_, inner, _, _, _, _, rfl⟩ := excerpt?_eq_some_iff.mp between
  exact Json.exists_fields_of_read read

/-- A fault names the text that it was found in. -/
def Fault.Names (text : String) : Fault → Prop
  | .noObject other => other = text
  | .notJson other _ _ _ => other = text
  | _ => False

/-- What is expected of a text is an object, or a fault that names the text. -/
def Expected (text : String) : Except Fault Json → Prop
  | .ok value => ∃ fields, value = .object fields
  | .error fault => fault.Names text

/-- A text is too large if its excerpt stops a reader with so many levels at a limit. -/
def Overlarge (levels : Nat) (text : String) : Prop :=
  ∃ excerpt error, excerpt? text.toList = some excerpt ∧ Json.read levels excerpt = .error error ∧
    error.AtLimit

/-- What stops the reader is a fault that names the text, unless it is a limit. -/
theorem Fault.names_ofRead_iff {text : String} {excerpt : List Char} {error : ReadError} :
    (Fault.ofRead text excerpt error).Names text ↔ ¬error.AtLimit := by
  cases error <;> simp [Fault.ofRead, Fault.Names, ReadError.AtLimit]

/-- A text gives what is expected of it exactly if it is not too large. -/
theorem object_expected_iff (levels : Nat) (text : String) :
    Expected text (object levels text) ↔ ¬Overlarge levels text := by
  cases found : excerpt? text.toList with
  | none => simp [object_of_no_excerpt? found, Overlarge, found, Expected, Fault.Names]
  | some excerpt =>
    cases read : Json.read levels excerpt with
    | ok value =>
      have accepted : object levels text = .ok value := object_eq_ok_iff.mpr ⟨excerpt, found, read⟩
      have fields := exists_fields_of_object accepted
      simpa [accepted, Overlarge, found, read, Expected] using fields
    | error error =>
      have stopped : object levels text = .error (.ofRead text excerpt error) := by
        rw [object_of_excerpt? found, read]
        rfl
      simp [stopped, Overlarge, found, read, Expected, Fault.names_ofRead_iff]

/-- A text is too large for its digits or for its brackets. -/
theorem Overlarge.due {text : String} (overlarge : Overlarge levels text) :
    ∃ excerpt, excerpt? text.toList = some excerpt ∧
      ((∃ count, Json.digitLimit < count ∧ Json.HasDigits excerpt count) ∨
        levels < excerpt.countP Json.opens) := by
  obtain ⟨excerpt, error, found, stopped, limit⟩ := overlarge
  have due := Json.read_error_due stopped
  refine ⟨excerpt, found, ?_⟩
  cases error with
  | syntaxFault fault place => exact absurd limit id
  | longInteger count => exact .inl ⟨count, due⟩
  | tooDeep inObject => exact .inr due

/-- A text around a regular object is too large if the object cannot be held. -/
theorem overlarge_around_text {layout : Layout} (lawful : layout.Lawful) (before after : String)
    (unopened : '\x7b' ∉ before.toList) (unclosed : '\x7d' ∉ after.toList)
    {fields : List (String × Json)} (regular : Regular (.object fields))
    (unheld : ¬Held levels (.object fields)) :
    Overlarge levels (before ++ (Json.object fields).text layout ++ after) := by
  obtain ⟨error, stopped, limit⟩ := regular.read_text_overflow lawful unheld
  have found := excerpt?_around_text before after unopened unclosed layout fields
  exact ⟨_, error, found, stopped, limit⟩

/-- A regular object comes back from the text that is written of it, on one line or on many, amid
text that opens no brace before it and closes none after it, exactly if the reader can hold it. -/
theorem object_around_text_iff {layout : Layout} (known : layout = .spaced ∨ layout = .indented)
    {before after : String} (unopened : '\x7b' ∉ before.toList) (unclosed : '\x7d' ∉ after.toList)
    {value : Json} (isObject : ∃ fields, value = .object fields) (regular : Regular value)
    {writing : Nat} {text : String} (written : value.text? writing layout = .ok text)
    (reading : Nat) :
    object reading (before ++ text ++ after) = .ok value ↔ Held reading value := by
  have lawful : layout.Lawful := by
    rcases known with rfl | rfl
    · exact Layout.spaced_lawful
    · exact Layout.indented_lawful
  obtain ⟨fields, rfl⟩ := isObject
  obtain ⟨_, rfl⟩ := Json.text?_eq_ok_iff.mp written
  rw [object_eq_ok_iff, ← regular.read_text_iff lawful,
    excerpt?_around_text before after unopened unclosed layout fields]
  simp

/-- An object with every kind of value, whose text has both braces and a character beyond the basic
ones. -/
def variedObject : Json :=
  .object
    [("text", .string "\x7d \x7b \" \\ 😀"),
      ("items", .array [.int (-12), .null, .bool true, .array [], .object []])]

/-- The object with every kind of value can be held with three levels. -/
theorem held_variedObject : Held 3 variedObject := by
  have items : ∀ item ∈ ([.int (-12), .null, .bool true, .array [], .object []] : List Json),
      Held 1 item := by
    simp only [List.forall_mem_cons]
    exact ⟨.int (by decide), .null, .bool true, .array (List.forall_mem_nil _),
      .object List.nodup_nil (List.forall_mem_nil _), List.forall_mem_nil _⟩
  refine .object (by decide) (List.forall_mem_cons.mpr ⟨.string _, ?_⟩)
  exact List.forall_mem_singleton.mpr (.array items)

/-- The object with every kind of value comes back from amid braces that cannot be taken for its
own. -/
theorem object_around_variedObject :
    (Layout.indented = .spaced ∨ Layout.indented = .indented) ∧
      '\x7b' ∉ "Here \x7d you go: ".toList ∧ '\x7d' ∉ " \x7b Thanks".toList ∧
      (∃ fields, variedObject = .object fields) ∧ Regular variedObject ∧
      variedObject.text? 3 .indented = .ok (variedObject.text .indented) ∧
      object 3 ("Here \x7d you go: " ++ variedObject.text .indented ++ " \x7b Thanks") =
        .ok variedObject := by
  have known : Layout.indented = .spaced ∨ Layout.indented = .indented := .inr rfl
  have unopened : '\x7b' ∉ "Here \x7d you go: ".toList := by decide
  have unclosed : '\x7d' ∉ " \x7b Thanks".toList := by decide
  have regular : Regular variedObject := held_variedObject.regular
  have written : variedObject.text? 3 .indented = .ok (variedObject.text .indented) :=
    Json.text?_eq_ok_iff.mpr ⟨held_variedObject.writeError?_eq_none, rfl⟩
  exact ⟨known, unopened, unclosed, ⟨_, rfl⟩, regular, written,
    (object_around_text_iff known unopened unclosed ⟨_, rfl⟩ regular written 3).mpr
      held_variedObject⟩

/-! ## An object that is nested too deeply -/

/-- Lists in lists. -/
def nested : Nat → Json
  | 0 => .array []
  | levels + 1 => .array [nested levels]

/-- Lists in lists are held by a reader with more levels. -/
theorem held_nested_iff {depth : Nat} (levels : Nat) :
    Held depth (nested levels) ↔ levels < depth := by
  induction levels generalizing depth with
  | zero =>
    constructor
    · rintro ⟨⟩
      exact Nat.succ_pos _
    · intro positive
      obtain ⟨depth, rfl⟩ := Nat.exists_eq_succ_of_ne_zero (Nat.ne_of_gt positive)
      exact .array (List.forall_mem_nil _)
  | succ levels ih =>
    constructor
    · rintro (_ | _ | _ | _ | each)
      exact Nat.succ_lt_succ (ih.mp (each _ (.head _)))
    · intro deeper
      obtain ⟨depth, rfl⟩ := Nat.exists_eq_succ_of_ne_zero (Nat.ne_of_gt (Nat.zero_lt_of_lt deeper))
      exact .array (List.forall_mem_singleton.mpr (ih.mpr (Nat.lt_of_succ_lt_succ deeper)))

/-- An object with a field that is nested deeply: 994 levels with those of the object. -/
def deepFields : List (String × Json) := [("components", .array []), ("deep", nested 992)]

/-- The deeply nested object is held with as many levels as it has, and not with fewer. -/
theorem held_deepFields_iff {depth : Nat} : Held depth (.object deepFields) ↔ 994 ≤ depth := by
  constructor
  · rintro (_ | _ | _ | _ | _ | ⟨_, each⟩)
    have inner := (held_nested_iff 992).mp (each _ (.tail _ (.head _)))
    omega
  · intro enough
    obtain ⟨depth, rfl⟩ : ∃ less, depth = less + 2 := ⟨depth - 2, by omega⟩
    refine .object (by decide) (List.forall_mem_cons.mpr ⟨.array (List.forall_mem_nil _), ?_⟩)
    exact List.forall_mem_singleton.mpr ((held_nested_iff 992).mpr (by omega))

/-- The deeply nested object can be written within 994 levels, but does not come back from its own
text to a reader with one level less. -/
theorem object_text_deepFields_fails :
    Regular (.object deepFields) ∧ ∀ layout, layout = Layout.spaced ∨ layout = .indented →
      (Json.object deepFields).text? 994 layout = .ok ((Json.object deepFields).text layout) ∧
        object 993 ("" ++ (Json.object deepFields).text layout ++ "") ≠
          .ok (.object deepFields) := by
  have held : Held 994 (.object deepFields) := held_deepFields_iff.mpr (Nat.le_refl 994)
  refine ⟨held.regular, fun layout known => ⟨?_, fun returned => ?_⟩⟩
  · exact Json.text?_eq_ok_iff.mpr ⟨held.writeError?_eq_none, rfl⟩
  · have lawful : layout.Lawful := by
      rcases known with rfl | rfl
      · exact Layout.spaced_lawful
      · exact Layout.indented_lawful
    obtain ⟨excerpt, found, read⟩ := object_eq_ok_iff.mp returned
    have whole := excerpt?_around_text "" "" (by decide) (by decide) layout deepFields
    obtain rfl := Option.some.inj (whole.symm.trans found)
    have least := held_deepFields_iff.mp ((held.regular.read_text_iff lawful).mp read)
    omega

end CodeAtlas.Reply
