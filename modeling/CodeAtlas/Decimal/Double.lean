/-!
# Binary floating-point numbers and their shortest decimals

A `Double` is kept as its bits, so that equality of numbers is decidable and tells zeros apart. Its
decimal is the shortest one that lies in the interval of reals that round to it, and of those the
nearest; the interval holds its ends exactly if the significand is even.
-/
namespace CodeAtlas

/-- A number of 64 bits: sign, exponent and fraction. -/
structure Double where
  /-- The bits. -/
  bits : UInt64
  deriving DecidableEq, Repr

namespace Double

/-- Whether the sign is set. -/
def isNegative (number : Double) : Bool := 1 <<< 63 ≤ number.bits.toNat

/-- The biased exponent. -/
def exponentBits (number : Double) : Nat := (number.bits.toNat >>> 52) % 2048

/-- The fraction. -/
def fractionBits (number : Double) : Nat := number.bits.toNat % (1 <<< 52)

/-- Whether the number is not infinite and is a number. -/
def isFinite (number : Double) : Bool := number.exponentBits < 2047

/-- Whether it is no number. -/
def isNaN (number : Double) : Bool := number.exponentBits = 2047 && number.fractionBits ≠ 0

/-- Whether it is zero of either sign. -/
def isZero (number : Double) : Bool := number.exponentBits = 0 && number.fractionBits = 0

/-- The significand of a finite number. -/
def significand (number : Double) : Nat :=
  if number.exponentBits = 0 then number.fractionBits else (1 <<< 52) + number.fractionBits

/-- The power of two that the significand is multiplied by, plus 1074. -/
def scale (number : Double) : Nat := number.exponentBits - 1

/-- The number nearest to `digits * 10 ^ exponent`, with a sign. -/
def ofDecimal (negative : Bool) (digits : Nat) (exponent : Int) : Double :=
  let size : Int := (Nat.toDigits 10 digits).length
  let magnitude : Float :=
    if digits = 0 || exponent + size < -400 then 0.0
    else if 400 < exponent + size then 1.0 / 0.0
    else Float.ofScientific digits (exponent < 0) exponent.natAbs
  ⟨(if negative then -magnitude else magnitude).toBits⟩

/-- The number nearest to an integer. -/
def ofInt (value : Int) : Double := ofDecimal (value < 0) value.natAbs 0

/-- Infinity with a sign. -/
def infinity (negative : Bool) : Double :=
  ⟨if negative then 0xfff0000000000000 else 0x7ff0000000000000⟩

/-- What is not a number. -/
def nan : Double := ⟨0x7ff8000000000000⟩

/-- The integer that a finite number is, if it is one. -/
def toInt? (number : Double) : Option Int :=
  if !number.isFinite then none
  else
    let scaled := number.significand <<< number.scale
    if scaled % (1 <<< 1074) = 0 then
      let magnitude : Int := (scaled >>> 1074 : Nat)
      some (if number.isNegative then -magnitude else magnitude)
    else none

/-- Twice the value of a finite number and of the ends of its interval, as multiples of a unit
fraction: the lower end, the value and the upper end over a common denominator. -/
structure Interval where
  /-- Lower end. -/
  low : Nat
  /-- The value. -/
  value : Nat
  /-- Upper end. -/
  high : Nat
  /-- What the three are divided by. -/
  denominator : Nat
  /-- Whether the ends belong to the interval. -/
  closed : Bool

/-- The reals that round to a finite number that is not zero. -/
def interval (number : Double) : Interval :=
  let significand := number.significand
  let narrow := number.fractionBits = 0 && 1 < number.exponentBits
  let unit := 1 <<< number.scale
  { low := (4 * significand - if narrow then 1 else 2) * unit
    value := 4 * significand * unit
    high := (4 * significand + 2) * unit
    denominator := 1 <<< 1076
    closed := significand % 2 = 0 }

/-- Whether `digits / grid` lies in the interval, for `grid` given as a fraction. -/
def Interval.holds (range : Interval) (digits up down : Nat) : Bool :=
  let scaled := digits * up * range.denominator
  if range.closed then range.low * down ≤ scaled && scaled ≤ range.high * down
  else range.low * down < scaled && scaled < range.high * down

/-- The decimal of the interval on the grid of multiples of `up / down`, if one is there: the
nearer of the two neighbours of the value, the even one of two equally near. -/
def Interval.onGrid? (range : Interval) (up down : Nat) : Option Nat :=
  let lower := range.value * down / (up * range.denominator)
  let remainder := range.value * down - lower * up * range.denominator
  let upper := lower + 1
  let belowFits := range.holds lower up down && lower ≠ 0
  let aboveFits := range.holds upper up down
  let half := up * range.denominator
  if belowFits && aboveFits then
    some (if 2 * remainder < half then lower
      else if half < 2 * remainder then upper
      else if lower % 2 = 0 then lower else upper)
  else if belowFits then some lower
  else if aboveFits then some upper
  else none

/-- Search the grids from coarse to fine: the digits found and the exponent of their last place. -/
def Interval.search (range : Interval) : Nat → Int → Nat × Int
  | 0, exponent => (range.value / range.denominator, exponent)
  | fuel + 1, exponent =>
    let up := if 0 ≤ exponent then 10 ^ exponent.natAbs else 1
    let down := if 0 ≤ exponent then 1 else 10 ^ exponent.natAbs
    match range.onGrid? up down with
    | some digits => (digits, exponent)
    | none => search range fuel (exponent - 1)

/-- The shortest decimal of a finite number that is not zero: digits and the exponent of the last
of them. -/
def shortest (number : Double) : Nat × Int :=
  let range := number.interval
  let whole := (Nat.toDigits 10 (range.value / range.denominator)).length
  let leading : Int :=
    if range.denominator ≤ range.value then whole
    else -((Nat.toDigits 10 (range.denominator / range.value)).length : Int) + 1
  range.search 40 (leading + 1)

/-- How many decimal places before and after the point are written without an exponent. -/
def positional (pointPlace : Int) : Bool := -4 < pointPlace && pointPlace ≤ 16

/-- The text of digits with the point after `pointPlace` of them. -/
def layout (digits : List Char) (pointPlace : Int) : String :=
  if positional pointPlace then
    if pointPlace ≤ 0 then
      "0." ++ String.ofList (List.replicate pointPlace.natAbs '0' ++ digits)
    else
      let place := pointPlace.natAbs
      if digits.length ≤ place then
        String.ofList (digits ++ List.replicate (place - digits.length) '0') ++ ".0"
      else String.ofList (digits.take place) ++ "." ++ String.ofList (digits.drop place)
  else
    let exponent := pointPlace - 1
    let fraction := if digits.length ≤ 1 then "" else "." ++ String.ofList (digits.drop 1)
    let magnitude := toString exponent.natAbs
    String.ofList (digits.take 1) ++ fraction ++ (if exponent < 0 then "e-" else "e+") ++
      (if magnitude.length < 2 then "0" ++ magnitude else magnitude)

/-- The digits of a number without zeros at their end. -/
def significantDigits (digits : Nat) : List Char :=
  ((Nat.toDigits 10 digits).reverse.dropWhile (· = '0')).reverse

/-- The shortest text that reads back as the number; a point always shows that it is no integer. -/
def text (number : Double) : String :=
  if number.isNaN then "nan"
  else
    let sign := if number.isNegative then "-" else ""
    if !number.isFinite then sign ++ "inf"
    else if number.isZero then sign ++ "0.0"
    else
      let (digits, exponent) := number.shortest
      let places := (Nat.toDigits 10 digits).length
      sign ++ layout (significantDigits digits) (exponent + places)

end Double

end CodeAtlas
