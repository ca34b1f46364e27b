import CodeAtlas.Text.Quoted

/-!
# Faults of documents

What can be wrong with a document. A document that is malformed, or that means nothing, is told
apart from one that holds a scalar which cannot be converted, or nodes that are nested too deeply:
only the latter has a `Fault`.
-/
namespace CodeAtlas.Yaml

/-- Why a scalar cannot be converted, or a node not be followed. -/
inductive Fault where
  /-- The text writes no integer in a base. -/
  | badInteger (base : Nat) (text : String)
  /-- An integer has more digits than can be read. -/
  | longInteger (digits : Nat)
  /-- The text writes no floating-point number. -/
  | badDouble (text : String)
  /-- A number has no text. -/
  | emptyNumber
  /-- The text is no truth value. -/
  | badTruth (text : String)
  /-- The text writes no moment. -/
  | badMoment
  /-- A mapping stands where a moment is needed. -/
  | momentOfMapping
  /-- There is no such year. -/
  | year (given : Nat)
  /-- There is no such month. -/
  | month
  /-- There is no such day. -/
  | day
  /-- There is no such hour. -/
  | hour
  /-- There is no such minute. -/
  | minute
  /-- There is no such second. -/
  | second
  /-- The time is a day or more away from the reference, by so many minutes. -/
  | offset (minutes : Int)
  /-- There is no character of a code. -/
  | badCode
  /-- A character code is too large to be looked at. -/
  | hugeCode
  /-- Nodes are nested more deeply than can be followed. -/
  | tooDeep
  deriving DecidableEq, Repr

/-- A span of minutes by its days and seconds. -/
def spanText (minutes : Int) : String :=
  let days := minutes.fdiv 1440
  let seconds := minutes.fmod 1440 * 60
  let parts :=
    (if days = 0 then [] else ["days=" ++ toString days]) ++
      if seconds = 0 then [] else ["seconds=" ++ toString seconds]
  "datetime.timedelta(" ++ ", ".intercalate parts ++ ")"

/-- What a fault says. -/
def Fault.message : Fault → String
  | .badInteger base text =>
    "invalid literal for int() with base " ++ toString base ++ ": " ++
      String.ofList ((Text.quoted text).toList.take 200)
  | .longInteger digits =>
    "Exceeds the limit (4300 digits) for integer string conversion: value has " ++
      toString digits ++ " digits; use sys.set_int_max_str_digits() to increase the limit"
  | .badDouble text => "could not convert string to float: " ++ Text.quoted text
  | .emptyNumber => "string index out of range"
  | .badTruth text => Text.quoted text
  | .badMoment => "'NoneType' object has no attribute 'groupdict'"
  | .momentOfMapping => "expected string or bytes-like object, got 'list'"
  | .year given => "year " ++ toString given ++ " is out of range"
  | .month => "month must be in 1..12"
  | .day => "day is out of range for month"
  | .hour => "hour must be in 0..23"
  | .minute => "minute must be in 0..59"
  | .second => "second must be in 0..59"
  | .offset minutes =>
    "offset must be a timedelta strictly between -timedelta(hours=24) and " ++
      "timedelta(hours=24), not " ++ spanText minutes ++ "."
  | .badCode => "chr() arg not in range(0x110000)"
  | .hugeCode => "Python int too large to convert to C int"
  | .tooDeep => "maximum recursion depth exceeded"

/-- Why reading a text ends. -/
inductive Stop where
  /-- The text is malformed. -/
  | malformed
  /-- A scalar cannot be converted, or a node not be followed. -/
  | fault (fault : Fault)
  deriving DecidableEq, Repr

end CodeAtlas.Yaml
