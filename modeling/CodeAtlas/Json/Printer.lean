import CodeAtlas.Json.Basic

/-!
# Writing JSON

A layout says where blanks and line breaks stand between the tokens and which characters are
escaped. `Layout.compact` writes the size-bearing form of entities, `Layout.spaced` one line with
blanks, and `Layout.indented` the form that requests are sent in.
-/
namespace CodeAtlas.Json

/-- How values are laid out. -/
structure Layout where
  /-- Between two items of a line. -/
  comma : String
  /-- Between a name and its value. -/
  colon : String
  /-- Blanks for each level, where items stand on lines of their own. -/
  indent : Option Nat
  /-- Whether all characters outside the printable basic ones are escaped. -/
  ascii : Bool

/-- No blanks, and only what must be escaped is. -/
def Layout.compact : Layout := ⟨",", ":", none, false⟩

/-- One line with blanks. -/
def Layout.spaced : Layout := ⟨", ", ": ", none, true⟩

/-- Items on lines of their own, two blanks deeper for each level. -/
def Layout.indented : Layout := ⟨",", ": ", some 2, true⟩

/-- Four digits in base sixteen. -/
def hex4 (code : Nat) : List Char :=
  [Nat.digitChar (code / 4096 % 16), Nat.digitChar (code / 256 % 16),
    Nat.digitChar (code / 16 % 16), Nat.digitChar (code % 16)]

/-- The escape of a character by its units of sixteen bits. -/
def unitEscape (char : Char) : List Char :=
  let code := char.toNat
  if code < 0x10000 then '\\' :: 'u' :: hex4 code
  else
    let rest := code - 0x10000
    '\\' :: 'u' :: hex4 (0xd800 + rest / 1024) ++ '\\' :: 'u' :: hex4 (0xdc00 + rest % 1024)

/-- A character inside a string. -/
def writeChar (ascii : Bool) (char : Char) : List Char :=
  if char = '"' then ['\\', '"']
  else if char = '\\' then ['\\', '\\']
  else if char = '\n' then ['\\', 'n']
  else if char = '\r' then ['\\', 'r']
  else if char = '\t' then ['\\', 't']
  else if char = '\x08' then ['\\', 'b']
  else if char = '\x0c' then ['\\', 'f']
  else if char.toNat < 0x20 || (ascii && 0x7e < char.toNat) then unitEscape char
  else [char]

/-- A string with its quotes. -/
def writeString (ascii : Bool) (text : String) : List Char :=
  '"' :: text.toList.flatMap (writeChar ascii) ++ ['"']

/-- A floating-point number; the three that are not finite have names. -/
def writeDouble (value : Double) : List Char :=
  if value.isNaN then "NaN".toList
  else if value.isFinite then value.text.toList
  else if value.isNegative then "-Infinity".toList else "Infinity".toList

/-- The line break before an item at a level. -/
def lineBreak (layout : Layout) (level : Nat) : List Char :=
  match layout.indent with
  | some width => '\n' :: List.replicate (width * level) ' '
  | none => []

mutual

/-- A value at a level. -/
def write (layout : Layout) (level : Nat) : Json → List Char
  | .null => "null".toList
  | .bool true => "true".toList
  | .bool false => "false".toList
  | .int value => (toString value).toList
  | .float value => writeDouble value
  | .string value => writeString layout.ascii value
  | .array items =>
    match items with
    | [] => "[]".toList
    | item :: rest =>
      '[' :: lineBreak layout (level + 1) ++ write layout (level + 1) item ++
        writeItems layout (level + 1) rest ++ lineBreak layout level ++ [']']
  | .object fields =>
    match fields with
    | [] => "\x7b\x7d".toList
    | (name, value) :: rest =>
      '\x7b' :: lineBreak layout (level + 1) ++ writeString layout.ascii name ++
        layout.colon.toList ++ write layout (level + 1) value ++
        writeFields layout (level + 1) rest ++ lineBreak layout level ++ ['\x7d']

/-- The items after the first. -/
def writeItems (layout : Layout) (level : Nat) : List Json → List Char
  | [] => []
  | item :: rest =>
    layout.comma.toList ++ lineBreak layout level ++ write layout level item ++
      writeItems layout level rest

/-- The fields after the first. -/
def writeFields (layout : Layout) (level : Nat) : List (String × Json) → List Char
  | [] => []
  | (name, value) :: rest =>
    layout.comma.toList ++ lineBreak layout level ++ writeString layout.ascii name ++
      layout.colon.toList ++ write layout level value ++ writeFields layout level rest

end

/-- A string is written with its quotes. -/
theorem write_string (layout : Layout) (level : Nat) (value : String) :
    write layout level (.string value) = writeString layout.ascii value := by
  rw [write]

/-- A list without items is written as two brackets. -/
theorem write_array_nil (layout : Layout) (level : Nat) :
    write layout level (.array []) = "[]".toList := by
  rw [write]

/-- Items are written between brackets. -/
theorem write_array_cons (layout : Layout) (level : Nat) (item : Json) (items : List Json) :
    write layout level (.array (item :: items)) =
      '[' :: lineBreak layout (level + 1) ++ write layout (level + 1) item ++
        writeItems layout (level + 1) items ++ lineBreak layout level ++ [']'] := by
  rw [write]

/-- An object without fields is written as two braces. -/
theorem write_object_nil (layout : Layout) (level : Nat) :
    write layout level (.object []) = "\x7b\x7d".toList := by
  rw [write]

/-- Fields are written between braces. -/
theorem write_object_cons (layout : Layout) (level : Nat) (name : String) (value : Json)
    (fields : List (String × Json)) :
    write layout level (.object ((name, value) :: fields)) =
      '\x7b' :: lineBreak layout (level + 1) ++ writeString layout.ascii name ++
        layout.colon.toList ++ write layout (level + 1) value ++
        writeFields layout (level + 1) fields ++ lineBreak layout level ++ ['\x7d'] := by
  rw [write]

/-- The text of a value. -/
def text (layout : Layout) (json : Json) : String := String.ofList (write layout 0 json)

/-- The compact text of a value with texts of any type. A text that holds anything but Unicode
characters stops the writer. -/
def compact? {τ : Type} [Wording τ] (json : Json τ) : Option String :=
  json.unicode?.map (text .compact)

/-! ## Limits -/

/-- Why a value cannot be written. -/
inductive WriteError where
  /-- An integer has more digits than can be written. -/
  | longInteger
  /-- Values are nested more deeply than can be written. -/
  | tooDeep
  deriving DecidableEq, Repr

/-- What stops the writer first in a value, where so many levels may be nested in it. -/
def writeError? : Nat → Json → Option WriteError
  | _, .int value =>
    if digitLimit < (Nat.toDigits 10 value.natAbs).length then some .longInteger else none
  | levels + 1, .array items => items.findSome? (writeError? levels)
  | levels + 1, .object fields => fields.findSome? fun field => writeError? levels field.2
  | 0, .array _ => some .tooDeep
  | 0, .object _ => some .tooDeep
  | _, _ => none

/-- The text of a value, if the writer is not stopped; so many levels may be nested in it. -/
def text? (levels : Nat) (layout : Layout) (json : Json) : Except WriteError String :=
  match json.writeError? levels with
  | some error => .error error
  | none => .ok (json.text layout)

end CodeAtlas.Json
