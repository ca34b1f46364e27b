import CodeAtlas.Registry

/-!
# Registries of steady parsers

A parser is steady if what it accepts does not depend on what it was asked before. A registry of
steady parsers answers by a plain search: `select_eq_parser?`. Asking never changes which parsers a
registry has.
-/
namespace CodeAtlas

/-- What a parser accepts depends on the path alone. -/
def FileParser.Steady (parser : FileParser) : Prop :=
  ∀ asked path, parser.accepts asked path = parser.accepts [] path

/-- Parsers of sources go by the extension alone. -/
theorem FileParser.ofSource_steady (label name : String) (parser : SourceParser) :
    (FileParser.ofSource label name parser).Steady :=
  fun _ _ => rfl

/-- The parser of documents goes by the extension alone. -/
theorem FileParser.yaml_steady (loading : Depth) : (FileParser.yaml loading).Steady :=
  fun _ _ => rfl

namespace Registry

/-- All parsers of a registry are steady. -/
def Steady (registry : Registry) : Prop := ∀ parser ∈ registry.toList, parser.Steady

/-- The usual parsers are steady. -/
theorem standard_steady (limits : Limits) : (standard limits).Steady := by
  intro parser member
  simp only [standard, ofList, toList, List.map_cons, List.map_nil, List.mem_cons,
    List.not_mem_nil, or_false] at member
  rcases member with rfl | rfl | rfl
  · exact FileParser.ofSource_steady _ _ _
  · exact FileParser.ofSource_steady _ _ _
  · exact FileParser.yaml_steady _

/-- The first parser of a registry that accepts a path it is asked about for the first time. -/
def parser? (registry : Registry) (path : String) : Option FileParser :=
  registry.toList.find? (·.accepts [] path)

/-- Asking keeps the parsers and their order. -/
theorem ask_parsers (path : String) (registrations : List Registration) :
    (ask path registrations).2.map (·.parser) = registrations.map (·.parser) := by
  induction registrations with
  | nil => rfl
  | cons registration rest ih =>
    simp only [ask]
    split
    · rfl
    · simp only [List.map_cons, ih]

/-- Steady parsers are asked in order up to the first that accepts. -/
theorem ask_eq_find? (path : String) (registrations : List Registration)
    (steady : ∀ registration ∈ registrations, registration.parser.Steady) :
    (ask path registrations).1 =
      (registrations.map (·.parser)).find? (·.accepts [] path) := by
  induction registrations with
  | nil => rfl
  | cons registration rest ih =>
    have same := steady registration List.mem_cons_self registration.asked path
    have others := ih fun other member => steady other (List.mem_cons_of_mem _ member)
    simp only [ask, same, List.map_cons, List.find?_cons]
    split <;> simp_all

/-- Asking about a path keeps the parsers. -/
@[simp]
theorem toList_select (registry : Registry) (path : String) :
    (registry.select path).2.toList = registry.toList :=
  ask_parsers path registry.registrations

/-- Asking about a path keeps the parsers. -/
@[simp]
theorem toList_accepts (registry : Registry) (path : String) :
    (registry.accepts path).2.toList = registry.toList :=
  ask_parsers path registry.registrations

/-- A registry with the parsers of a steady one is steady. -/
theorem Steady.of_toList_eq {registry other : Registry} (steady : registry.Steady)
    (same : other.toList = registry.toList) : other.Steady := by
  unfold Steady
  rw [same]
  exact steady

/-- A steady registry selects the first parser that accepts. -/
theorem Steady.select_eq_parser? {registry : Registry} (steady : registry.Steady)
    (path : String) : (registry.select path).1 = registry.parser? path :=
  ask_eq_find? path registry.registrations fun registration member =>
    steady registration.parser (List.mem_map_of_mem member)

/-- A steady registry accepts the paths that it has a parser for. -/
theorem Steady.accepts_eq_isSome {registry : Registry} (steady : registry.Steady)
    (path : String) : (registry.accepts path).1 = (registry.parser? path).isSome :=
  congrArg Option.isSome (steady.select_eq_parser? path)

/-- Which parser comes first is decided by the parsers alone. -/
theorem parser?_of_toList_eq {registry other : Registry} (same : other.toList = registry.toList)
    (path : String) : other.parser? path = registry.parser? path := by
  rw [parser?, parser?, same]

end Registry

end CodeAtlas
