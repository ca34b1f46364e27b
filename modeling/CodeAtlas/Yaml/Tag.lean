import CodeAtlas.Yaml.Moment

/-!
# Tags

The tag of a node says what kind of value it writes. A plain scalar without a tag has the tag that
its text implies.
-/
namespace CodeAtlas.Yaml

/-- The kinds of values. -/
inductive Tag where
  /-- No value. -/
  | null
  /-- A truth value. -/
  | bool
  /-- An integer. -/
  | int
  /-- A floating-point number. -/
  | float
  /-- Bytes. -/
  | binary
  /-- A date, or a date and time. -/
  | timestamp
  /-- A text. -/
  | str
  /-- A sequence. -/
  | seq
  /-- A mapping. -/
  | map
  /-- A set, written as the keys of a mapping. -/
  | set
  /-- An ordered mapping, written as a sequence of mappings of one entry. -/
  | omap
  /-- A sequence of pairs, written in the same way. -/
  | pairs
  /-- The key whose value is merged into the mapping around it. -/
  | merge
  /-- The key whose value stands for the mapping around it. -/
  | value
  /-- Any other kind. -/
  | other
  deriving DecidableEq, Repr

namespace Tag

/-- What the names of the kinds of values begin with. -/
def family : String := "tag:yaml.org,2002:"

/-- The kinds by their names. -/
def names : List (String × Tag) :=
  [("null", .null), ("bool", .bool), ("int", .int), ("float", .float), ("binary", .binary),
    ("timestamp", .timestamp), ("str", .str), ("seq", .seq), ("map", .map), ("set", .set),
    ("omap", .omap), ("pairs", .pairs), ("merge", .merge), ("value", .value)]

/-- The tag of a full name. -/
def ofName (name : String) : Tag :=
  ((names.find? fun (short, _) => family ++ short == name).map (·.2)).getD .other

/-! ## Implied tags -/

/-- Characters without a sign in front. -/
def dropSign : List Char → List Char
  | '-' :: rest => rest
  | '+' :: rest => rest
  | chars => chars

/-- Whether a character is a digit or an underscore. -/
def isDigitLike (char : Char) : Bool := Decimal.isDigit char || char = '_'

/-- What follows a number that begins with a digit and goes on with digits and underscores. -/
def afterWhole? : List Char → Option (List Char)
  | char :: rest => if Decimal.isDigit char then some (rest.dropWhile isDigitLike) else none
  | [] => none

/-- Whether characters are an exponent with its sign, or nothing. -/
def isExponent : List Char → Bool
  | [] => true
  | mark :: sign :: digits =>
    (mark = 'e' || mark = 'E') && (sign = '-' || sign = '+') && !digits.isEmpty &&
      digits.all Decimal.isDigit
  | _ => false

/-- What follows the places of base sixty after a colon each; there must be one. -/
def afterPlaces? : List Char → Option (List Char)
  | ':' :: first :: second :: rest =>
    if '0' ≤ first && first ≤ '5' && Decimal.isDigit second then
      some ((afterPlaces? rest).getD rest)
    else if Decimal.isDigit first then some ((afterPlaces? (second :: rest)).getD (second :: rest))
    else none
  | [':', only] => if Decimal.isDigit only then some [] else none
  | _ => none

/-- Whether characters write a floating-point number. -/
def isFloat (chars : List Char) : Bool :=
  let isDecimal :=
    match afterWhole? (dropSign chars) with
    | some ('.' :: rest) => isExponent (rest.dropWhile isDigitLike)
    | _ => false
  let isFraction :=
    match chars with
    | '.' :: rest => (afterWhole? rest).any isExponent
    | _ => false
  let hasPlaces :=
    match (afterWhole? (dropSign chars)).bind afterPlaces? with
    | some ('.' :: rest) => rest.all isDigitLike
    | _ => false
  isDecimal || isFraction || hasPlaces ||
    [".inf", ".Inf", ".INF"].contains (String.ofList (dropSign chars)) ||
    [".nan", ".NaN", ".NAN"].contains (String.ofList chars)

/-- Whether a character is a digit of base sixteen or an underscore. -/
def isHexLike (char : Char) : Bool := (Json.hexValue? char).isSome || char = '_'

/-- Whether characters write an integer. -/
def isInt (chars : List Char) : Bool :=
  match dropSign chars with
  | ['0'] => true
  | '0' :: 'b' :: rest =>
    !rest.isEmpty && rest.all fun char => char = '0' || char = '1' || char = '_'
  | '0' :: 'x' :: rest => !rest.isEmpty && rest.all isHexLike
  | '0' :: rest => rest.all fun char => ('0' ≤ char && char ≤ '7') || char = '_'
  | number =>
    match afterWhole? number with
    | none => false
    | some [] => true
    | some rest => (afterPlaces? rest).any (·.isEmpty)

/-- Whether characters write a date of four, two and two digits, or any moment with a time. -/
def isTimestamp (chars : List Char) : Bool :=
  match Moment.read? (String.ofList chars) with
  | some moment => moment.time.isSome || chars.length = 10
  | none => false

/-- The words for truth values. -/
def truthWords : List String :=
  ["yes", "Yes", "YES", "no", "No", "NO", "true", "True", "TRUE", "false", "False", "FALSE",
    "on", "On", "ON", "off", "Off", "OFF"]

/-- The tag that a text implies; a line feed at its end does not count. -/
def implied (text : String) : Tag :=
  let chars := dropLastBreak text.toList
  let word := String.ofList chars
  if text = "" || word = "~" || word = "null" || word = "Null" || word = "NULL" then .null
  else if truthWords.contains word then .bool
  else if isFloat chars then .float
  else if isInt chars then .int
  else if isTimestamp chars then .timestamp
  else if word = "<<" then .merge
  else if word = "=" then .value
  else if word = "!" || word = "&" || word = "*" then .other
  else .str

end Tag

/-- Whether a character is a digit of base sixty-four. -/
def isBase64Digit (char : Char) : Bool :=
  ('A' ≤ char && char ≤ 'Z') || ('a' ≤ char && char ≤ 'z') || Decimal.isDigit char ||
    char = '+' || char = '/'

/-- Whether digits of base sixty-four come in groups of four, the last perhaps filled up by equals
signs; other characters do not count. -/
def fillsGroups (inGroup signs : Nat) : List Char → Bool
  | [] => inGroup = 0
  | char :: rest =>
    if char = '=' then
      if inGroup < 2 then fillsGroups inGroup signs rest
      else 4 ≤ inGroup + signs + 1 || fillsGroups inGroup (signs + 1) rest
    else if isBase64Digit char then fillsGroups ((inGroup + 1) % 4) 0 rest
    else fillsGroups inGroup signs rest

/-- Check that the text of a scalar writes a value of its kind. -/
def Tag.check (tag : Tag) (text : String) : Except Stop Unit :=
  match tag with
  | .null | .str => .ok ()
  | .bool =>
    let word := Text.toLower text
    if ["yes", "no", "true", "false", "on", "off"].contains word then .ok ()
    else .error (.fault (.badTruth word))
  | .int => (checkIntegerText text).mapError .fault
  | .float => (checkDoubleText text).mapError .fault
  | .timestamp => (checkMomentText text).mapError .fault
  | .binary =>
    let chars := text.toList
    if (chars.all fun char => char.toNat < 0x80) && fillsGroups 0 0 chars then .ok ()
    else .error .malformed
  | .seq | .map | .set | .omap | .pairs | .merge | .value | .other => .error .malformed

end CodeAtlas.Yaml
