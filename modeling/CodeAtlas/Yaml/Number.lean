import CodeAtlas.Decimal.Lenient
import CodeAtlas.Json.Reader
import CodeAtlas.Text.Case
import CodeAtlas.Text.Digit
import CodeAtlas.Yaml.Fault

/-!
# Numbers in documents

An integer is written in base ten, in the bases that a mark at its start names, or in base sixty
with colons between its places; so is a floating-point number, in base ten or sixty. Underscores
count for nothing. Texts are read for the fault that they cause; what a number is worth does not
matter here.
-/
namespace CodeAtlas.Yaml

/-- The value of a digit in a base up to thirty-six. -/
def digitIn? (base : Nat) (char : Char) : Option Nat :=
  let value :=
    if '0' ≤ char && char ≤ '9' then char.toNat - '0'.toNat
    else if 'a' ≤ char && char ≤ 'z' then char.toNat - 'a'.toNat + 10
    else if 'A' ≤ char && char ≤ 'Z' then char.toNat - 'A'.toNat + 10
    else base
  if value < base then some value else none

/-- Whether a character and a letter are one mark of a base. -/
def isBaseMark (base : Nat) (char : Char) : Bool :=
  match base with
  | 2 => char = 'b' || char = 'B'
  | 8 => char = 'o' || char = 'O'
  | 16 => char = 'x' || char = 'X'
  | _ => false

/-- Digits after the mark of their base, if it is there. -/
def dropBaseMark (base : Nat) : List Char → List Char
  | '0' :: mark :: rest => if isBaseMark base mark then rest else '0' :: mark :: rest
  | chars => chars

/-- The digits in front of characters, and what follows them. -/
def digitsIn (base : Nat) (chars : List Char) : List Char × List Char :=
  (chars.takeWhile fun char => (digitIn? base char).isSome,
    chars.dropWhile fun char => (digitIn? base char).isSome)

/-- Check that a text writes an integer in a base: blanks around it, a sign, the mark of the
base, and digits, in base ten not too many. -/
def checkInteger (base : Nat) (text : List Char) : Except Fault Unit :=
  let chars := (text.map Text.basicDigit).dropWhile Text.isPlainSpace
  let (digits, rest) := digitsIn base (dropBaseMark base (Decimal.splitSign chars).2)
  if base = 10 && Json.digitLimit < digits.length then .error (.longInteger digits.length)
  else if digits.isEmpty || !rest.all Text.isPlainSpace then
    .error (.badInteger base (String.ofList text))
  else .ok ()

/-- Check that a text writes a floating-point number. -/
def checkDouble (text : List Char) : Except Fault Unit :=
  match Decimal.plainDouble? (Text.trimBy Text.isPlainSpace (text.map Text.basicDigit)) with
  | some _ => .ok ()
  | none => .error (.badDouble (String.ofList text))

/-- The parts of a text between colons; `current` holds the part so far, last character first. -/
def partsFrom : List Char → List Char → List (List Char)
  | current, [] => [current.reverse]
  | current, ':' :: rest => current.reverse :: partsFrom [] rest
  | current, char :: rest => partsFrom (char :: current) rest

/-- A number without its underscores and its sign; there must be a first character. -/
def unsigned (chars : List Char) : Except Fault (List Char) :=
  match chars.filter (· ≠ '_') with
  | [] => .error .emptyNumber
  | char :: rest => .ok (if char = '-' || char = '+' then rest else char :: rest)

/-- Check the text of an integer. -/
def checkIntegerText (text : String) : Except Fault Unit := do
  match ← unsigned text.toList with
  | [] => .error .emptyNumber
  | ['0'] => .ok ()
  | '0' :: 'b' :: rest => checkInteger 2 rest
  | '0' :: 'x' :: rest => checkInteger 16 rest
  | '0' :: rest => checkInteger 8 ('0' :: rest)
  | chars =>
    if chars.contains ':' then (partsFrom [] chars).forM (checkInteger 10)
    else checkInteger 10 chars

/-- Check the text of a floating-point number. -/
def checkDoubleText (text : String) : Except Fault Unit := do
  let chars ← unsigned (Text.toLower (String.ofList (text.toList.filter (· ≠ '_')))).toList
  if chars = ".inf".toList || chars = ".nan".toList then .ok ()
  else if chars.contains ':' then (partsFrom [] chars).forM checkDouble
  else checkDouble chars

end CodeAtlas.Yaml
