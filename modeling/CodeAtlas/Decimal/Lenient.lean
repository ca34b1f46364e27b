import CodeAtlas.Decimal.Double
import CodeAtlas.Text.Blank

/-!
# Numbers from lenient text

Numbers as people write them in settings: white space around, a plus sign, leading zeros, single
underscores between digits, and for an integer a fraction of zeros.
-/
namespace CodeAtlas.Decimal

open CodeAtlas.Text

/-- Whether a character is a decimal digit. -/
def isDigit (char : Char) : Bool := '0' ≤ char && char ≤ '9'

/-- The value of a list of digits. -/
def digitsValue (digits : List Char) : Nat :=
  digits.foldl (fun value digit => value * 10 + (digit.toNat - '0'.toNat)) 0

/-- What remains of a number after leading zeros, the last of which was `last`: one zero stays if
no other digit follows. -/
def dropZerosAfter (last : Char) : List Char → Option (List Char)
  | [] => some [last]
  | char :: rest =>
    if char = '0' || char = '_' then dropZerosAfter char rest
    else if isDigit char then some (char :: rest)
    else if char = '.' then some (last :: char :: rest)
    else none

/-- A number without leading zeros; it must begin with a digit. -/
def dropZeros : List Char → Option (List Char)
  | '0' :: rest => dropZerosAfter '0' rest
  | char :: rest => if isDigit char then some (char :: rest) else none
  | [] => none

/-- A number without a fraction, if the fraction is zero. -/
def dropZeroFraction (chars : List Char) : List Char :=
  match chars.dropWhile (· ≠ '.') with
  | [] => chars
  | _ :: fraction => if fraction.all (· = '0') then chars.takeWhile (· ≠ '.') else chars

/-- Whether two underscores stand side by side. -/
def doubledUnderscore : List Char → Bool
  | '_' :: '_' :: _ => true
  | _ :: rest => doubledUnderscore rest
  | [] => false

/-- A number without underscores, if each of them stands by itself between two characters. -/
def dropUnderscores? (chars : List Char) : Option (List Char) :=
  if chars.head? = some '_' || chars.getLast? = some '_' || doubledUnderscore chars then none
  else some (chars.filter (· ≠ '_'))

/-- The most digits of an integer. -/
def longestInteger : Nat := 4300

/-- Why a text is no integer. -/
inductive IntegerFault where
  /-- It does not write an integer. -/
  | malformed
  /-- The integer has too many digits. -/
  | tooLong
  deriving DecidableEq, Repr

/-- The sign of a number and what follows it. -/
def splitSign : List Char → Bool × List Char
  | '-' :: rest => (true, rest)
  | '+' :: rest => (false, rest)
  | chars => (false, chars)

/-- The integer that a text writes. -/
def integer (text : String) : Except IntegerFault Int :=
  let (negative, chars) := splitSign (trimBy isPlainSpace text.toList)
  match (dropZeros chars).bind fun chars => dropUnderscores? (dropZeroFraction chars) with
  | none => .error .malformed
  | some digits =>
    if digits.isEmpty || !digits.all isDigit then .error .malformed
    else if longestInteger < digits.length then .error .tooLong
    else
      let magnitude : Int := (digitsValue digits : Nat)
      .ok (if negative then -magnitude else magnitude)

/-- The words for numbers that are not finite. -/
def specialWord? (negative : Bool) (chars : List Char) : Option Double :=
  let word := String.ofList (chars.map Char.toLower)
  if word = "inf" || word = "infinity" then some (Double.infinity negative)
  else if word = "nan" then some Double.nan
  else none

/-- The exponent at the end of a number: nothing, or a mark, a sign and digits. -/
def exponent? : List Char → Option Int
  | [] => some 0
  | mark :: rest =>
    if mark = 'e' || mark = 'E' then
      let (negative, digits) := splitSign rest
      if digits.isEmpty || !digits.all isDigit then none
      else
        let digits := digits.dropWhile (· = '0')
        let magnitude : Int := if 9 < digits.length then 999999999 else (digitsValue digits : Nat)
        some (if negative then -magnitude else magnitude)
    else none

/-- The floating-point number that characters without blanks write. -/
def plainDouble? (chars : List Char) : Option Double :=
  let (negative, chars) := splitSign chars
  match specialWord? negative chars with
  | some number => some number
  | none =>
    let whole := chars.takeWhile isDigit
    let rest := chars.dropWhile isDigit
    let (fraction, rest) :=
      match rest with
      | '.' :: rest => (rest.takeWhile isDigit, rest.dropWhile isDigit)
      | rest => ([], rest)
    if whole.isEmpty && fraction.isEmpty then none
    else
      (exponent? rest).map fun exponent =>
        Double.ofDecimal negative (digitsValue (whole ++ fraction)) (exponent - fraction.length)

/-- The floating-point number that a text writes. -/
def double? (text : String) : Option Double :=
  match plainDouble? (trimBy isPlainSpace text.toList) with
  | some number => some number
  | none =>
    if text.toList.contains '_' then (dropUnderscores? text.toList).bind plainDouble? else none

end CodeAtlas.Decimal
