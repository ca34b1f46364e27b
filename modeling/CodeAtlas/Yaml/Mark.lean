import CodeAtlas.Text.Utf8
import CodeAtlas.Yaml.Scalar

/-!
# Directives, anchors and tags in a text

The words that stand before nodes and documents: the name of an anchor or of what it is referred
to by, a tag with its handle, and the directives that say what handles mean.
-/
namespace CodeAtlas.Yaml

/-- A directive. -/
inductive Directive where
  /-- The version of the format. -/
  | version (major minor : Nat)
  /-- What a handle of tags means. -/
  | handle (handle meaning : String)
  /-- Any other directive. -/
  | other
  deriving DecidableEq, Repr

/-- Whether a character may stand in a name. -/
def isNameChar (char : Char) : Bool :=
  ('0' ≤ char && char ≤ '9') || ('A' ≤ char && char ≤ 'Z') || ('a' ≤ char && char ≤ 'z') ||
    char = '-' || char = '_'

/-- Whether a character may stand in a tag. -/
def isTagChar (char : Char) : Bool :=
  isNameChar char || ";/?:@&=+$,.!~*'()[]%".toList.contains char

/-- The name of an anchor; the place is after its mark. -/
def anchorName (place : Place) : Except Stop (String × Place) :=
  let (name, place) := place.span isNameChar
  let closed := endsWord place.head? || place.head?.any ("?:,]\x7d%@`".toList.contains ·)
  if name.isEmpty || !closed then malformed else .ok (String.ofList name, place)

/-- A handle of tags: an exclamation mark by itself, or two around a name. -/
def handle (place : Place) : Except Stop (String × Place) :=
  if !place.isAt '!' then malformed
  else if place.next.isAt ' ' then .ok ("!", place.next)
  else
    let (name, after) := place.next.span isNameChar
    if after.isAt '!' then .ok ("!" ++ String.ofList name ++ "!", after.next) else malformed

/-- The bytes that are written by their codes. -/
def codedBytes : Nat → Place → Except Stop (List UInt8 × Place)
  | 0, place => .ok ([], place)
  | fuel + 1, place =>
    if place.isAt '%' then
      match hexCode? (place.next.rest.take 2), place.peek? 2 with
      | some code, some _ => do
        let (bytes, place) ← codedBytes fuel (place.skip 3)
        return (UInt8.ofNat code :: bytes, place)
      | _, _ => malformed
    else .ok ([], place)

/-- Whether bytes are a text. -/
def isText : List UInt8 → Bool
  | [] => true
  | lead :: rest =>
    match Utf8.front lead rest with
    | .scalar _ extra => isText (rest.drop extra)
    | .damaged _ => false
termination_by bytes => bytes.length
decreasing_by simp only [List.length_drop, List.length_cons]; omega

/-- The text of a tag, after the text so far. -/
def tagTextFrom : Nat → Place → List Char → Except Stop (List Char × Place)
  | 0, place, found => .ok (found, place)
  | fuel + 1, place, found =>
    if place.isAt '%' then do
      let (bytes, place) ← codedBytes (place.rest.length + 1) place
      if isText bytes then tagTextFrom fuel place (found ++ Utf8.decodeChars bytes)
      else malformed
    else
      let (stretch, after) := place.span fun char => isTagChar char && char ≠ '%'
      if stretch.isEmpty then .ok (found, place) else tagTextFrom fuel after (found ++ stretch)

/-- The text of a tag, which is not empty. -/
def tagText (place : Place) : Except Stop (String × Place) := do
  let (text, place) ← tagTextFrom (place.rest.length + 1) place []
  if text.isEmpty then malformed else return (String.ofList text, place)

/-- Whether a second exclamation mark stands in the word that comes next. -/
def hasHandle (chars : List Char) : Bool :=
  (chars.takeWhile fun char => !endsAtBlank (some char)).contains '!'

/-- A tag with its handle; the place is at its mark. A tag in angle brackets, and the mark by
itself, have none. -/
def tag (place : Place) : Except Stop ((Option String × String) × Place) := do
  let (found, place) ←
    match place.peek? 1 with
    | some '<' => do
      let (text, place) ← tagText (place.skip 2)
      if place.isAt '>' then pure ((none, text), place.next) else malformed
    | next =>
      if endsWord next then pure ((none, "!"), place.next)
      else do
        let (mark, place) ←
          if hasHandle place.next.rest then handle place else pure ("!", place.next)
        let (text, place) ← tagText place
        pure ((some mark, text), place)
  if endsAtBlank place.head? then return (found, place) else malformed

/-- A number of a version. -/
def versionNumber (place : Place) : Except Stop (Nat × Place) :=
  let (digits, place) := place.span fun char => '0' ≤ char && char ≤ '9'
  if digits.isEmpty then malformed
  else if Json.digitLimit < digits.length then .error (.fault (.longInteger digits.length))
  else .ok (Json.decimalFrom 0 digits, place)

/-- A directive; the place is after its mark. -/
def directive (place : Place) : Except Stop (Directive × Place) := do
  let (name, place) := place.span isNameChar
  if name.isEmpty || !endsAtBlank place.head? then malformed
  else
    let (found, place) ←
      if name = "YAML".toList then do
        let (major, place) ← versionNumber place.skipBlanks
        if place.isAt '.' then
          let (minor, place) ← versionNumber place.next
          if endsAtBlank place.head? then pure (.version major minor, place) else malformed
        else malformed
      else if name = "TAG".toList then do
        let (mark, place) ← handle place.skipBlanks
        if place.isAt ' ' then
          let (meaning, place) ← tagText place.skipBlanks
          if endsAtBlank place.head? then pure (.handle mark meaning, place) else malformed
        else malformed
      else pure (.other, place.skipWhile (!isBreak ·))
    let place ← ignoredLine place
    return (found, place)

end CodeAtlas.Yaml
