/-!
# Issues of values taken in

When a value from outside cannot be made into a value of a type, everything that is wrong with it
is reported: each finding has the place inside the value and what is wrong there.
-/
namespace CodeAtlas.Intake

/-- One step to a place inside a value. -/
inductive Step where
  /-- A field of an object. -/
  | field (name : String)
  /-- An item of a list, counted from zero. -/
  | item (index : Nat)
  deriving DecidableEq, Repr

/-- Why a value of the right type is refused. -/
inductive Refusal where
  /-- The last line comes before the first. -/
  | reversedLines (last first : Int)
  /-- A number that must be at least one is not. -/
  | notPositive (given : Int)
  /-- There is no level of this name. -/
  | unknownLevel (given : String)
  deriving DecidableEq, Repr

/-- What a refusal says. -/
def Refusal.message : Refusal → String
  | .reversedLines last first =>
    "end_line " ++ toString last ++ " precedes start_line " ++ toString first
  | .notPositive given => "Must be at least 1, got " ++ toString given
  | .unknownLevel given => "Invalid log level: " ++ given

/-- What is wrong with a value. -/
inductive Issue where
  /-- It is missing. -/
  | missing
  /-- It is no text. -/
  | notText
  /-- The text is too short. -/
  | textTooShort
  /-- The text holds something other than Unicode characters. -/
  | notUnicode
  /-- It is no integer. -/
  | notInteger
  /-- The text writes no integer. -/
  | notIntegerText
  /-- The integer is too large. -/
  | integerTooLarge
  /-- The number has a fraction. -/
  | fraction
  /-- The number is not finite. -/
  | notFinite
  /-- The number is too small. -/
  | tooSmall
  /-- It is no floating-point number. -/
  | notDouble
  /-- The text writes no floating-point number. -/
  | notDoubleText
  /-- It is no list. -/
  | notList
  /-- It is no object. -/
  | notObject
  /-- It is refused. -/
  | refused (refusal : Refusal)
  deriving DecidableEq, Repr

/-- An issue and its place. -/
structure Finding where
  /-- Steps to the place, outermost first. -/
  place : List Step
  /-- What is wrong there. -/
  issue : Issue
  deriving DecidableEq, Repr

/-- A value, or everything that is wrong with what was taken in, in order. -/
abbrev Checked (α : Type) := Except (List Finding) α

namespace Checked

variable {α β : Type}

/-- One issue at the value itself. -/
def fail (issue : Issue) : Checked α := .error [⟨[], issue⟩]

/-- The outcome at a place one step further out. -/
def within (step : Step) : Checked α → Checked α
  | .ok value => .ok value
  | .error findings => .error (findings.map fun finding => ⟨step :: finding.place, finding.issue⟩)

/-- Two values, or everything that is wrong with both. -/
def and : Checked α → Checked β → Checked (α × β)
  | .ok first, .ok second => .ok (first, second)
  | .ok _, .error findings => .error findings
  | .error findings, .ok _ => .error findings
  | .error first, .error second => .error (first ++ second)

/-- All values of a list from an index on, or everything that is wrong with them. -/
def itemsFrom (index : Nat) : List (Checked α) → Checked (List α)
  | [] => .ok []
  | item :: items =>
    ((item.within (.item index)).and (itemsFrom (index + 1) items)).map fun (first, rest) =>
      first :: rest

end Checked

end CodeAtlas.Intake
