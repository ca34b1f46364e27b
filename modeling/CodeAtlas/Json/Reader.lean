import CodeAtlas.Json.Basic

/-!
# Reading JSON

A reader that tells where a text stops being JSON. Places count characters from zero. Besides the
standard form it reads the names of the numbers that are not finite. Of two fields with one name
the later value stays, in the earlier place. Integers and nesting have a limit each. An escape for
half of a surrogate pair that stands alone is read as the replacement character.
-/
namespace CodeAtlas.Json

/-- Why a text is not JSON. -/
inductive Fault where
  /-- No value begins here. -/
  | expectedValue
  /-- No name begins here. -/
  | expectedName
  /-- A colon is missing. -/
  | expectedColon
  /-- A comma is missing. -/
  | expectedComma
  /-- The string that begins here does not end. -/
  | unterminatedString
  /-- A control character stands in a string. -/
  | controlCharacter
  /-- A backslash stands before no escape. -/
  | badEscape
  /-- A character code is not written with four digits. -/
  | badCode
  /-- Something follows the value. -/
  | extraData
  deriving DecidableEq, Repr

/-- What a fault says. -/
def Fault.message : Fault → String
  | .expectedValue => "Expecting value"
  | .expectedName => "Expecting property name enclosed in double quotes"
  | .expectedColon => "Expecting ':' delimiter"
  | .expectedComma => "Expecting ',' delimiter"
  | .unterminatedString => "Unterminated string starting at"
  | .controlCharacter => "Invalid control character at"
  | .badEscape => "Invalid \\escape"
  | .badCode => "Invalid \\uXXXX escape"
  | .extraData => "Extra data"

/-- Why reading stopped. -/
inductive ReadError where
  /-- The text is not JSON from a place on. -/
  | syntaxFault (fault : Fault) (place : Nat)
  /-- An integer has more digits than can be read. -/
  | longInteger (digits : Nat)
  /-- Values are nested more deeply than can be read. -/
  | tooDeep (inObject : Bool)
  deriving DecidableEq, Repr

/-- Characters not yet read and the place of the first of them. -/
structure Input where
  /-- Characters not yet read. -/
  rest : List Char
  /-- Characters before them. -/
  place : Nat
  deriving Repr

/-- The outcome of a reader. -/
abbrev Read (α : Type) := Except ReadError (α × Input)

/-- Stop with a fault at a place. -/
def fail {α : Type} (fault : Fault) (place : Nat) : Except ReadError α :=
  .error (.syntaxFault fault place)

/-- Whether a character is a blank between tokens. -/
def isBlank (char : Char) : Bool := char = ' ' || char = '\t' || char = '\n' || char = '\r'

/-- Skip blanks. -/
def skipBlanks : List Char → Nat → Input
  | [], place => ⟨[], place⟩
  | char :: rest, place =>
    if isBlank char then skipBlanks rest (place + 1) else ⟨char :: rest, place⟩

/-- Skip blanks. -/
def Input.trim (input : Input) : Input := skipBlanks input.rest input.place

/-- The value of a digit in base sixteen. -/
def hexValue? (char : Char) : Option Nat :=
  if '0' ≤ char && char ≤ '9' then some (char.toNat - '0'.toNat)
  else if 'a' ≤ char && char ≤ 'f' then some (char.toNat - 'a'.toNat + 10)
  else if 'A' ≤ char && char ≤ 'F' then some (char.toNat - 'A'.toNat + 10)
  else none

/-- The code that four digits write. -/
def code4? : List Char → Option (Nat × List Char)
  | a :: b :: c :: d :: rest => do
    let a ← hexValue? a
    let b ← hexValue? b
    let c ← hexValue? c
    let d ← hexValue? d
    some (a * 4096 + b * 256 + c * 16 + d, rest)
  | _ => none

/-- The code that follows a first half of a pair, if it is a second half. -/
def secondHalf? : List Char → Option (Nat × List Char)
  | '\\' :: 'u' :: rest =>
    match code4? rest with
    | some (code, rest) =>
      if 0xdc00 ≤ code && code ≤ 0xdfff then some (code, rest) else none
    | none => none
  | _ => none

/-- The characters that single letters stand for after a backslash. -/
def escaped? (char : Char) : Option Char :=
  if char = '"' || char = '\\' || char = '/' then some char
  else if char = 'b' then some '\x08'
  else if char = 'f' then some '\x0c'
  else if char = 'n' then some '\n'
  else if char = 'r' then some '\r'
  else if char = 't' then some '\t'
  else none

/-- The rest of a string that began at `start`; `found` holds its characters, last first. -/
def readString (start : Nat) : Nat → List Char → Nat → List Char → Read String
  | 0, _, _, _ => fail .unterminatedString start
  | _, [], _, _ => fail .unterminatedString start
  | fuel + 1, char :: rest, place, found =>
    if char = '"' then .ok (String.ofList found.reverse, ⟨rest, place + 1⟩)
    else if char = '\\' then
      match rest with
      | [] => fail .unterminatedString start
      | 'u' :: digits =>
        if digits.length < 5 then fail .badCode (place + 1)
        else
          match code4? digits with
          | none => fail .badCode (place + 1)
          | some (code, after) =>
            if 0xd800 ≤ code && code ≤ 0xdbff then
              match secondHalf? after with
              | some (second, after) =>
                let char := Char.ofNat (0x10000 + (code - 0xd800) * 1024 + (second - 0xdc00))
                readString start fuel after (place + 12) (char :: found)
              | none => readString start fuel after (place + 6) ('\ufffd' :: found)
            else
              let char := if 0xdc00 ≤ code && code ≤ 0xdfff then '\ufffd' else Char.ofNat code
              readString start fuel after (place + 6) (char :: found)
      | letter :: rest =>
        match escaped? letter with
        | some char => readString start fuel rest (place + 2) (char :: found)
        | none => fail .badEscape place
    else if char.toNat < 0x20 then fail .controlCharacter place
    else readString start fuel rest (place + 1) (char :: found)

/-- The value of decimal digits after a value so far. -/
def decimalFrom (value : Nat) (digits : List Char) : Nat :=
  digits.foldl (fun value digit => value * 10 + (digit.toNat - '0'.toNat)) value

/-- Whether a character is a decimal digit. -/
def isDigit (char : Char) : Bool := '0' ≤ char && char ≤ '9'

/-- The digits at the front of a list and what follows them. -/
def spanDigits (chars : List Char) : List Char × List Char :=
  (chars.takeWhile isDigit, chars.dropWhile isDigit)

/-- The whole part of a number: a zero, or digits that begin with another. -/
def wholePart? : List Char → Option (List Char × List Char)
  | '0' :: rest => some (['0'], rest)
  | char :: rest => if isDigit char then some (spanDigits (char :: rest)) else none
  | [] => none

/-- The fraction of a number: a point with digits after it. -/
def fractionPart? : List Char → Option (List Char × List Char)
  | '.' :: rest =>
    let (digits, rest) := spanDigits rest
    if digits.isEmpty then none else some (digits, rest)
  | _ => none

/-- The exponent of a number: its sign, its digits, what follows, and how many marks precede. -/
def exponentPart? : List Char → Option (Bool × List Char × List Char × Nat)
  | mark :: rest =>
    if mark = 'e' || mark = 'E' then
      let (negative, rest, marks) :=
        match rest with
        | '-' :: rest => (true, rest, 2)
        | '+' :: rest => (false, rest, 2)
        | rest => (false, rest, 1)
      let (digits, rest) := spanDigits rest
      if digits.isEmpty then none else some (negative, digits, rest, marks)
    else none
  | [] => none

/-- The value of the digits of an exponent; more than nine digits are as good as nine nines. -/
def exponentValue (negative : Bool) (digits : List Char) : Int :=
  let digits := digits.dropWhile (· = '0')
  let magnitude : Int := if 9 < digits.length then 999999999 else (decimalFrom 0 digits : Nat)
  if negative then -magnitude else magnitude

/-- A number whose sign has been read. -/
def readNumber (start : Nat) (negative : Bool) (chars : List Char) (place : Nat) : Read Json :=
  match wholePart? chars with
  | none => fail .expectedValue start
  | some (whole, rest) =>
    let place := place + whole.length
    let (fraction, rest, place) :=
      match fractionPart? rest with
      | some (digits, rest) => (digits, rest, place + digits.length + 1)
      | none => ([], rest, place)
    match exponentPart? rest with
    | some (down, digits, rest, marks) =>
      let exponent := exponentValue down digits - fraction.length
      .ok (.float (Double.ofDecimal negative (decimalFrom 0 (whole ++ fraction)) exponent),
        ⟨rest, place + marks + digits.length⟩)
    | none =>
      if fraction.isEmpty then
        if digitLimit < whole.length then .error (.longInteger whole.length)
        else
          let magnitude : Int := (decimalFrom 0 whole : Nat)
          .ok (.int (if negative then -magnitude else magnitude), ⟨rest, place⟩)
      else
        .ok (.float (Double.ofDecimal negative (decimalFrom 0 (whole ++ fraction))
          (-fraction.length)), ⟨rest, place⟩)

/-- The words that are values. -/
def wordValues : List (String × Json) :=
  [("null", .null), ("true", .bool true), ("false", .bool false), ("NaN", .float Double.nan),
    ("Infinity", .float (Double.infinity false)), ("-Infinity", .float (Double.infinity true))]

/-- The word at the front of a list of characters, if it is a value. -/
def wordValue? (chars : List Char) : Option (Json × Nat) :=
  wordValues.findSome? fun (word, value) =>
    if word.toList.isPrefixOf chars then some (value, word.length) else none

mutual

/-- A value; `depth` more levels may be nested in it and `fuel` bounds its length. -/
def readValue (depth : Nat) : Nat → Input → Read Json
  | 0, input => fail .expectedValue input.place
  | fuel + 1, input =>
    match input.rest with
    | [] => fail .expectedValue input.place
    | '"' :: rest =>
      match readString input.place (rest.length + 1) rest (input.place + 1) [] with
      | .ok (text, input) => .ok (.string text, input)
      | .error error => .error error
    | '\x7b' :: rest =>
      match depth with
      | 0 => .error (.tooDeep true)
      | depth + 1 =>
        let input := skipBlanks rest (input.place + 1)
        match input.rest with
        | '\x7d' :: rest => .ok (.object [], ⟨rest, input.place + 1⟩)
        | _ => readFields depth fuel input []
    | '[' :: rest =>
      match depth with
      | 0 => .error (.tooDeep false)
      | depth + 1 =>
        let input := skipBlanks rest (input.place + 1)
        match input.rest with
        | ']' :: rest => .ok (.array [], ⟨rest, input.place + 1⟩)
        | _ => readItems depth fuel input []
    | chars =>
      match wordValue? chars with
      | some (value, length) => .ok (value, ⟨chars.drop length, input.place + length⟩)
      | none =>
        match chars with
        | '-' :: digits => readNumber input.place true digits (input.place + 1)
        | digits => readNumber input.place false digits input.place

/-- The items of an array from the next one on; `found` holds those before, last first. -/
def readItems (depth : Nat) : Nat → Input → List Json → Read Json
  | 0, input, _ => fail .expectedValue input.place
  | fuel + 1, input, found =>
    match readValue depth fuel input with
    | .error error => .error error
    | .ok (value, input) =>
      let input := input.trim
      match input.rest with
      | ']' :: rest => .ok (.array (value :: found).reverse, ⟨rest, input.place + 1⟩)
      | ',' :: rest =>
        readItems depth fuel (skipBlanks rest (input.place + 1)) (value :: found)
      | _ => fail .expectedComma input.place

/-- The fields of an object from the next one on, after those found. -/
def readFields (depth : Nat) : Nat → Input → List (String × Json) → Read Json
  | 0, input, _ => fail .expectedValue input.place
  | fuel + 1, input, found =>
    match input.rest with
    | '"' :: rest =>
      match readString input.place (rest.length + 1) rest (input.place + 1) [] with
      | .error error => .error error
      | .ok (name, input) =>
        let input := input.trim
        match input.rest with
        | ':' :: rest =>
          match readValue depth fuel (skipBlanks rest (input.place + 1)) with
          | .error error => .error error
          | .ok (value, input) =>
            let input := input.trim
            let found := put found name value
            match input.rest with
            | '\x7d' :: rest => .ok (.object found, ⟨rest, input.place + 1⟩)
            | ',' :: rest => readFields depth fuel (skipBlanks rest (input.place + 1)) found
            | _ => fail .expectedComma input.place
        | _ => fail .expectedColon input.place
    | _ => fail .expectedName input.place

end

/-- The value that a text writes, with blanks around it; so many levels may be nested in it. -/
def read (levels : Nat) (chars : List Char) : Except ReadError Json :=
  match readValue levels (chars.length + 1) (skipBlanks chars 0) with
  | .error error => .error error
  | .ok (value, input) =>
    let input := input.trim
    if input.rest.isEmpty then .ok value else fail .extraData input.place

/-- The line and column of a place, both counted from one. -/
def lineAndColumn (chars : List Char) (place : Nat) : Nat × Nat :=
  let before := chars.take place
  (before.count '\n' + 1, (before.reverse.takeWhile (· ≠ '\n')).length + 1)

/-- What a read error says of the text. -/
def ReadError.message (chars : List Char) : ReadError → String
  | .syntaxFault fault place =>
    let (line, column) := lineAndColumn chars place
    fault.message ++ ": line " ++ toString line ++ " column " ++ toString column ++ " (char " ++
      toString place ++ ")"
  | .longInteger digits =>
    "Exceeds the limit (" ++ toString digitLimit ++
      " digits) for integer string conversion: value has " ++ toString digits ++
      " digits; use sys.set_int_max_str_digits() to increase the limit"
  | .tooDeep inObject =>
    "maximum recursion depth exceeded while decoding a JSON " ++
      (if inObject then "object" else "array") ++ " from a unicode string"

end CodeAtlas.Json
