import CodeAtlas.Yaml.Number

/-!
# Moments in documents

A moment is a date, and perhaps a time of day with an offset from the reference. `Moment.read?`
takes its text apart, and `Moment.check` finds the first of its parts that is out of range.
-/
namespace CodeAtlas.Yaml

/-- A time of day. -/
structure TimeOfDay where
  /-- The hour. -/
  hour : Nat
  /-- The minute. -/
  minute : Nat
  /-- The second. -/
  second : Nat
  /-- Minutes ahead of the reference. -/
  offset : Int
  deriving DecidableEq, Repr

/-- A moment. -/
structure Moment where
  /-- The year. -/
  year : Nat
  /-- The month. -/
  month : Nat
  /-- The day. -/
  day : Nat
  /-- The time of day. -/
  time : Option TimeOfDay
  deriving DecidableEq, Repr

/-- A number of at least and at most so many digits, and what follows it. -/
def digits? (least most : Nat) (chars : List Char) : Option (Nat × List Char) :=
  let found := (chars.take most).takeWhile Decimal.isDigit
  if found.length < least then none
  else some (Decimal.digitsValue found, chars.drop found.length)

/-- What follows a character. -/
def after? (char : Char) : List Char → Option (List Char)
  | first :: rest => if first = char then some rest else none
  | [] => none

/-- Whether a character is a blank or a tab. -/
def isGap (char : Char) : Bool := char = ' ' || char = '\t'

/-- The offset at the end of a time: nothing, the letter of the reference, or a sign and hours,
and perhaps minutes. -/
def offset? (chars : List Char) : Option Int :=
  match chars.dropWhile isGap with
  | [] => if chars.isEmpty then some 0 else none
  | ['Z'] => some 0
  | sign :: rest =>
    if sign = '+' || sign = '-' then do
      let (hours, rest) ← digits? 1 2 rest
      let minutes ←
        match rest with
        | [] => some 0
        | ':' :: rest => do
          let (minutes, rest) ← digits? 2 2 rest
          if rest.isEmpty then some minutes else none
        | _ => none
      let total : Int := (hours * 60 + minutes : Nat)
      some (if sign = '-' then -total else total)
    else none

/-- A time of day. -/
def timeOfDay? (chars : List Char) : Option TimeOfDay := do
  let (hour, rest) ← digits? 1 2 chars
  let (minute, rest) ← digits? 2 2 (← after? ':' rest)
  let (second, rest) ← digits? 2 2 (← after? ':' rest)
  let rest :=
    match rest with
    | '.' :: rest => rest.dropWhile Decimal.isDigit
    | rest => rest
  some ⟨hour, minute, second, ← offset? rest⟩

/-- What separates a date from a time: a letter, or blanks. -/
def dropSeparator? (chars : List Char) : Option (List Char) :=
  match chars with
  | [] => none
  | char :: rest =>
    if char = 'T' || char = 't' then some rest
    else if isGap char then some (rest.dropWhile isGap)
    else none

/-- A text without a line feed at its end. -/
def dropLastBreak (chars : List Char) : List Char :=
  if chars.getLast? = some '\n' then chars.dropLast else chars

namespace Moment

/-- The moment that a text writes. -/
def read? (text : String) : Option Moment := do
  let (year, rest) ← digits? 4 4 (dropLastBreak text.toList)
  let (month, rest) ← digits? 1 2 (← after? '-' rest)
  let (day, rest) ← digits? 1 2 (← after? '-' rest)
  if rest.isEmpty then some ⟨year, month, day, none⟩
  else some ⟨year, month, day, some (← timeOfDay? (← dropSeparator? rest))⟩

/-- Whether a year is a leap year. -/
def isLeap (year : Nat) : Bool := year % 4 = 0 && (year % 100 ≠ 0 || year % 400 = 0)

/-- How many days a month has. -/
def daysIn (year month : Nat) : Nat :=
  if month = 2 then (if isLeap year then 29 else 28)
  else if month = 4 || month = 6 || month = 9 || month = 11 then 30
  else 31

/-- Check a date. -/
def checkDate (moment : Moment) : Except Fault Unit :=
  if moment.year = 0 then .error (.year moment.year)
  else if moment.month = 0 || 12 < moment.month then .error .month
  else if moment.day = 0 || daysIn moment.year moment.month < moment.day then .error .day
  else .ok ()

/-- Check a time of day without its offset. -/
def checkTime (time : TimeOfDay) : Except Fault Unit :=
  if 23 < time.hour then .error .hour
  else if 59 < time.minute then .error .minute
  else if 59 < time.second then .error .second
  else .ok ()

/-- Check a moment: first its offset, which is less than a day, then its date and its time. -/
def check (moment : Moment) : Except Fault Unit :=
  match moment.time with
  | none => moment.checkDate
  | some time => do
    if 1440 ≤ time.offset.natAbs then .error (.offset time.offset)
    moment.checkDate
    checkTime time

end Moment

/-- Check the text of a moment. -/
def checkMomentText (text : String) : Except Fault Unit :=
  match Moment.read? text with
  | none => .error .badMoment
  | some moment => moment.check

end CodeAtlas.Yaml
