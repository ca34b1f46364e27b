import CodeAtlas.Text.Wording

/-!
# Entities

What an analysis finds in sources: functions, classes with their methods and properties, each
with its place in a file. Results keep entities in the order in which they were found. `Valid`
says which values may be built: names are not empty, lines count from one and do not run backwards.
Their texts are those of the program; entities that come from outside have texts of another type.
-/
namespace CodeAtlas

/-- The lines of a file that an entity takes, both counted from one. -/
structure Location (τ : Type := String) where
  /-- Path of the file. -/
  file : τ
  /-- First line. -/
  startLine : Nat
  /-- Last line. -/
  endLine : Nat
  deriving DecidableEq, Repr

variable {τ : Type}

/-- A place begins on a line of the file and does not end before it begins. -/
def Location.Valid (location : Location τ) : Prop :=
  1 ≤ location.startLine ∧ location.startLine ≤ location.endLine

instance (location : Location τ) : Decidable location.Valid :=
  inferInstanceAs (Decidable (_ ∧ _))

/-- The text that stands for a type that is not known. -/
def unresolvedType : String := "any"

/-- A parameter of a function. -/
structure Parameter (τ : Type := String) where
  /-- Name, or the text of the pattern that takes the argument apart. -/
  name : τ
  /-- Text of the declared type. -/
  type : τ
  deriving DecidableEq, Repr

/-- A function, or a method of a class. -/
structure Function (τ : Type := String) where
  /-- Name. -/
  name : τ
  /-- Parameters in order. -/
  parameters : List (Parameter τ)
  /-- Text of the declared result type. -/
  returnType : τ
  /-- Source text of the body. -/
  body : Option τ
  /-- The comment that documents it. -/
  documentation : τ
  /-- Its place. -/
  location : Location τ
  deriving DecidableEq, Repr

/-- A function has a name and a valid place. -/
def Function.Valid [Wording τ] (function : Function τ) : Prop :=
  Wording.IsName function.name ∧ function.location.Valid

instance [DecidableEq τ] [Wording τ] (function : Function τ) : Decidable function.Valid :=
  inferInstanceAs (Decidable (_ ∧ _))

/-- A field of a class. -/
structure Property (τ : Type := String) where
  /-- Name. -/
  name : τ
  /-- Text of the declared type. -/
  type : τ
  /-- The comment that documents it. -/
  documentation : τ
  deriving DecidableEq, Repr

/-- A class, or one of several partial records of a large class. -/
structure Class (τ : Type := String) where
  /-- Name. -/
  name : τ
  /-- Methods in order. -/
  methods : List (Function τ)
  /-- Fields in order. -/
  properties : List (Property τ)
  /-- The comment that documents it. -/
  documentation : τ
  /-- Its place. -/
  location : Location τ
  /-- What a partial record says of itself. -/
  note : Option τ
  deriving DecidableEq, Repr

/-- A class has a name, a valid place and valid methods. -/
def Class.Valid [Wording τ] (cls : Class τ) : Prop :=
  Wording.IsName cls.name ∧ cls.location.Valid ∧ ∀ method ∈ cls.methods, method.Valid

instance [DecidableEq τ] [Wording τ] (cls : Class τ) : Decidable cls.Valid :=
  inferInstanceAs (Decidable (_ ∧ _))

/-- The functions and classes of a file or a project. -/
structure Analysis (τ : Type := String) where
  /-- Functions in order. -/
  functions : List (Function τ)
  /-- Classes in order. -/
  classes : List (Class τ)
  deriving DecidableEq, Repr

namespace Analysis

/-- An analysis that found nothing. -/
def empty : Analysis τ := ⟨[], []⟩

/-- Whether nothing was found. -/
def isEmpty (analysis : Analysis) : Bool :=
  analysis.functions.isEmpty && analysis.classes.isEmpty

/-- Only one analysis found nothing. -/
theorem isEmpty_iff {analysis : Analysis} : analysis.isEmpty = true ↔ analysis = .empty := by
  obtain ⟨functions, classes⟩ := analysis
  simp [isEmpty, empty]

/-- The entities of one analysis and then those of another. -/
def append (first second : Analysis) : Analysis :=
  ⟨first.functions ++ second.functions, first.classes ++ second.classes⟩

instance : Append Analysis := ⟨append⟩

@[simp]
theorem append_functions (first second : Analysis) :
    (first ++ second).functions = first.functions ++ second.functions := rfl

@[simp]
theorem append_classes (first second : Analysis) :
    (first ++ second).classes = first.classes ++ second.classes := rfl

/-- All entities are valid. -/
def Valid [Wording τ] (analysis : Analysis τ) : Prop :=
  (∀ function ∈ analysis.functions, function.Valid) ∧ ∀ cls ∈ analysis.classes, cls.Valid

instance [DecidableEq τ] [Wording τ] (analysis : Analysis τ) : Decidable analysis.Valid :=
  inferInstanceAs (Decidable (_ ∧ _))

end Analysis

/-- A file that could not be analyzed. -/
structure FileFailure (τ : Type := String) where
  /-- Path of the file. -/
  file : τ
  /-- Why it failed. -/
  error : τ
  deriving DecidableEq, Repr

/-- The analysis of a whole project. -/
structure ProjectAnalysis (τ : Type := String) where
  /-- What was found. -/
  result : Analysis τ
  /-- The files that failed, in order. -/
  failures : List (FileFailure τ)
  /-- How many files were listed. -/
  filesScanned : Int
  /-- How many files were given to a parser. -/
  filesAnalyzed : Int
  deriving DecidableEq, Repr

end CodeAtlas
