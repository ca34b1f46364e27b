import CodeAtlas.FileSystem.Listing
import CodeAtlas.Registry

/-!
# Projects

The analysis of a project joins the analyses of its files in the order of their listing. A file
that has none is a failure and adds nothing else; only the root of the project can make the whole
analysis fail. Files may be parsed by several workers, but what they find is joined in the order
of the listing all the same.
-/
namespace CodeAtlas

/-- How many files are parsed at once. -/
structure Workers where
  /-- The number of workers. -/
  count : Nat
  /-- There is at least one. -/
  positive : 1 ≤ count
  deriving Repr

namespace Workers

/-- One file after the other. -/
def single : Workers := ⟨1, by decide⟩

/-- Why there are no workers of a number. -/
inductive Refusal where
  /-- The number is less than one. -/
  | tooFew (given : Int)
  deriving DecidableEq, Repr

/-- What a refusal says. -/
def Refusal.message : Refusal → String
  | .tooFew given => "max_concurrency must be at least 1, got " ++ toString given

/-- Workers of a number. -/
def ofInt (count : Int) : Except Refusal Workers :=
  if positive : 1 ≤ count.toNat then .ok ⟨count.toNat, positive⟩ else .error (.tooFew count)

end Workers

namespace Project

/-- What comes of a file. -/
inductive Outcome where
  /-- Its analysis. -/
  | found (analysis : Analysis)
  /-- Its failure. -/
  | failed (failure : FileFailure)
  deriving DecidableEq, Repr

/-- What comes of a file with a parser, or without one. -/
def outcome (system : FileSystem) (path : Path) : Option FileParser → Outcome
  | none => .found .empty
  | some parser =>
    match parser.parse system path with
    | .ok analysis => .found analysis
    | .error error => .failed ⟨path.text, error.note⟩

/-- The files that a registry has a parser for. -/
def accepted (registry : Registry) : List Path → List Path × Registry
  | [] => ([], registry)
  | path :: paths =>
    let (isAccepted, registry) := registry.accepts path.text
    let (others, registry) := accepted registry paths
    (if isAccepted then path :: others else others, registry)

/-- What comes of files in order; the registry is asked once more about each. -/
def outcomes (system : FileSystem) (registry : Registry) : List Path → List Outcome × Registry
  | [] => ([], registry)
  | path :: paths =>
    let (parser, registry) := registry.select path.text
    let (others, registry) := outcomes system registry paths
    (outcome system path parser :: others, registry)

/-- The analyses among outcomes, joined in order. -/
def joined : List Outcome → Analysis
  | [] => .empty
  | .found analysis :: outcomes => analysis ++ joined outcomes
  | .failed _ :: outcomes => joined outcomes

/-- The failures among outcomes, in order. -/
def failures (outcomes : List Outcome) : List FileFailure :=
  outcomes.filterMap fun
    | .found _ => none
    | .failed failure => some failure

/-- The directory that a text names: without blanks around it, and with the home directory in
place of a tilde. -/
def root (system : FileSystem) (text : String) : Except FileSystem.RootError Path :=
  system.expandHome (Path.ofString (String.ofList (Text.trim text.toList)))

/-- The analysis of the project in a directory, and the registry after it. -/
def analyze (registry : Registry) (system : FileSystem) (directory : String) :
    Except FileSystem.RootError ProjectAnalysis × Registry :=
  match (root system directory).bind (system.files FileSystem.ignoredNames) with
  | .error error => (.error error, registry)
  | .ok files =>
    let (chosen, registry) := accepted registry files
    let (found, registry) := outcomes system registry chosen
    (.ok ⟨joined found, failures found, files.length, chosen.length⟩, registry)

end Project

end CodeAtlas
