import CodeAtlas.Proofs.Registry
import Mathlib.Data.List.Find
import Mathlib.Data.List.Nodup
import Mathlib.Data.List.Pairwise

/-!
# Dispatch by language

A path goes to a parser by its extension, and the parser picks its grammar by the language of the
path. The two agree: in every registry that grew from the usual one a path with a language goes to
the one usual parser of sources that covers it, and a path without one to none of them:
`select_dispatches`.
-/
namespace CodeAtlas

/-! ## Extensions and languages -/

/-- The language of an extension is the one that has it. -/
theorem Language.ofExtension?_eq_some_iff {extension : String} {language : Language} :
    ofExtension? extension = some language ↔ extension ∈ language.extensions := by
  constructor
  · intro found
    have held := List.find?_some found
    exact List.contains_iff_mem.mp held
  · intro member
    cases language <;> simp only [extensions, List.mem_cons, List.not_mem_nil, or_false] at member
    case typescript | tsx =>
      subst member
      decide
    case javascript => rcases member with rfl | rfl <;> decide

namespace SourceParser

variable (parser : SourceParser)

/-- A parser covers the language of a path if the path has one of its languages. -/
theorem language?_eq_some_iff {path : String} {language : Language} :
    parser.language? path = some language ↔
      Language.ofPath? (Path.ofString path) = some language ∧ language ∈ parser.languages := by
  simp [language?, Option.filter_eq_some_iff]

/-- A parser of sources has the extension of a path exactly if it covers its language. -/
theorem contains_extensions (path : String) :
    parser.extensions.contains (Path.ofString path).extension = (parser.language? path).isSome := by
  rw [Bool.eq_iff_iff, List.contains_iff_mem, Option.isSome_iff_exists, extensions,
    List.mem_flatMap]
  refine exists_congr fun language => ?_
  rw [language?_eq_some_iff, Language.ofPath?, Language.ofExtension?_eq_some_iff, and_comm]

/-- A tree is never refused for its language. -/
theorem ofTree_ne_unsupported (levels : Nat) (source : Extract.SourceFile) (root : Syntax.Node)
    (path : String) : ofTree levels source root ≠ .error (.unsupported path) := by
  unfold ofTree
  split
  · split <;> simp
  · dsimp only
    split <;> simp

/-- A source is refused for its path exactly if the parser does not cover the language of it. -/
theorem parse_eq_unsupported_iff {bytes : ByteArray} {path other : String} :
    parser.parse bytes path = .error (.unsupported other) ↔
      parser.language? path = none ∧ other = path := by
  unfold parse
  cases covered : parser.language? path with
  | none => simp [eq_comm]
  | some language => simp [ofTree_ne_unsupported]

end SourceParser

namespace FileParser

/-- A parser accepts paths by its extensions alone. -/
def GoesByExtension (parser : FileParser) : Prop :=
  ∀ asked path, parser.accepts asked path = hasExtension parser.extensions path

/-- A parser that goes by extensions is steady. -/
theorem GoesByExtension.steady {parser : FileParser} (goes : parser.GoesByExtension) :
    parser.Steady :=
  fun asked path => (goes asked path).trans (goes [] path).symm

/-- A parser that is made for sources goes by their extensions. -/
theorem ofSource_goesByExtension (label name : String) (parser : SourceParser) :
    (ofSource label name parser).GoesByExtension :=
  fun _ _ => rfl

/-- The parser of documents goes by their extensions. -/
theorem yaml_goesByExtension (loading : Depth) : (yaml loading).GoesByExtension := by
  intro asked path
  simp only [yaml]

/-- The usual parsers of sources. -/
def usualSources (searching : Depth) : List FileParser :=
  [.typescript searching, .javascript searching]

/-- The usual parser of sources in a language. -/
def usual (searching : Depth) : Language → FileParser
  | .typescript | .tsx => .typescript searching
  | .javascript => .javascript searching

/-- A parser of sources covers a language. -/
def Covers (parser : FileParser) (language : Language) : Prop :=
  ∃ sources, parser.sources = some sources ∧ language ∈ sources.languages

variable {searching : Depth}

/-- The two usual parsers of sources are different. -/
theorem typescript_ne_javascript : typescript searching ≠ javascript searching := fun same => by
  have labels : "TypeScriptParser" = "JavaScriptParser" := congrArg label same
  exact absurd labels (by decide)

/-- Of the usual parsers of sources only one covers a language. -/
theorem covers_iff {parser : FileParser} (member : parser ∈ usualSources searching)
    {language : Language} : parser.Covers language ↔ parser = usual searching language := by
  simp only [usualSources, List.mem_cons, List.not_mem_nil, or_false] at member
  rcases member with rfl | rfl
  · have covered : (typescript searching).Covers language ↔
        language ∈ (SourceParser.typescript searching).languages := by
      simp [Covers, typescript, ofSource]
    cases language <;>
      simp [covered, usual, typescript_ne_javascript, SourceParser.typescript]
  · have covered : (javascript searching).Covers language ↔
        language ∈ (SourceParser.javascript searching).languages := by
      simp [Covers, javascript, ofSource]
    cases language <;>
      simp [covered, usual, typescript_ne_javascript.symm, SourceParser.javascript]

/-- The usual parser of a language covers it. -/
theorem usual_mem (language : Language) : usual searching language ∈ usualSources searching := by
  cases language <;> simp [usual, usualSources]

/-- A parser that is made for sources accepts the paths of the languages that it covers. -/
theorem ofSource_accepts (label name : String) (parser : SourceParser) (asked : List String)
    (path : String) :
    (ofSource label name parser).accepts asked path = (parser.language? path).isSome :=
  parser.contains_extensions path

end FileParser

namespace Registry

open FileParser (usual usualSources)

/-! ## Registries that grow -/

/-- A registry that came about from another by registering further parsers, in order, and by asking
about paths in between. -/
inductive Grown (base : Registry) : List FileParser → Registry → Prop where
  | base : Grown base [] base
  | registered {further : List FileParser} {registry : Registry}
      (grown : Grown base further registry) (parser : FileParser) :
      Grown base (further ++ [parser]) (registry.register parser)
  | asked {further : List FileParser} {registry : Registry} (grown : Grown base further registry)
      (path : String) : Grown base further (registry.select path).2

/-- Registering a parser puts it at the end. -/
@[simp]
theorem toList_register (registry : Registry) (parser : FileParser) :
    (registry.register parser).toList = registry.toList ++ [parser] := by
  simp [register, toList]

variable {base registry : Registry} {further : List FileParser}

/-- A registry that grew has the parsers that were there and then the further ones. -/
theorem Grown.toList_eq (grown : Grown base further registry) :
    registry.toList = base.toList ++ further := by
  induction grown with
  | base => rw [List.append_nil]
  | registered _ parser ih => rw [toList_register, ih, List.append_assoc]
  | asked _ path ih => rw [toList_select, ih]

/-- A registry is asked part by part. -/
theorem ask_append (path : String) (front back : List Registration) :
    (ask path (front ++ back)).1 = (ask path front).1.or (ask path back).1 := by
  induction front with
  | nil => rfl
  | cons registration front ih =>
    simp only [List.cons_append, ask]
    split
    · rfl
    · exact ih

/-- The parser that is found is registered, and it accepted the path. -/
theorem exists_accepts_of_ask {path : String} {parser : FileParser}
    {registrations : List Registration} (found : (ask path registrations).1 = some parser) :
    ∃ registration ∈ registrations, registration.parser = parser ∧
      parser.accepts registration.asked path = true := by
  induction registrations with
  | nil => contradiction
  | cons registration rest ih =>
    simp only [ask] at found
    split at found
    · rename_i accepted
      cases found
      exact ⟨registration, .head _, rfl, accepted⟩
    · obtain ⟨other, member, same, accepted⟩ := ih found
      exact ⟨other, .tail _ member, same, accepted⟩

/-- A registry that grew from a steady one asks the parsers that were there first. -/
theorem Grown.select_of_steady (grown : Grown base further registry) (steady : base.Steady)
    (path : String) : ∃ back : List Registration,
      (registry.select path).1 = (base.parser? path).or (ask path back).1 := by
  obtain ⟨front, back, split, first, _⟩ := List.map_eq_append_iff.mp grown.toList_eq
  have found := ask_eq_find? path front fun registration member =>
    steady registration.parser (first ▸ List.mem_map_of_mem member)
  rw [first] at found
  refine ⟨back, ?_⟩
  change (ask path registry.registrations).1 = _
  rw [split, ask_append, found]
  rfl

/-! ## The usual parsers -/

variable {limits : Limits}

/-- There are three usual parsers. -/
theorem toList_standard (limits : Limits) : (standard limits).toList =
    [.typescript limits.searching, .javascript limits.searching, .yaml limits.loading] := rfl

/-- The usual parsers go by extensions. -/
theorem goesByExtension_of_mem_standard {parser : FileParser}
    (member : parser ∈ (standard limits).toList) : parser.GoesByExtension := by
  rw [toList_standard, List.mem_cons, List.mem_cons, List.mem_singleton] at member
  rcases member with rfl | rfl | rfl
  · exact FileParser.ofSource_goesByExtension _ _ _
  · exact FileParser.ofSource_goesByExtension _ _ _
  · exact FileParser.yaml_goesByExtension _

/-- The usual parsers have no extension in common. -/
theorem nodup_extensions_standard :
    ((standard limits).toList.flatMap (·.extensions)).Nodup := by
  change [".ts", ".tsx", ".js", ".jsx", ".yml", ".yaml"].Nodup
  decide

/-- At most one of the usual parsers accepts a path. -/
theorem eq_of_accepts {first second : FileParser} {before since : List String} {path : String}
    (left : first ∈ (standard limits).toList) (right : second ∈ (standard limits).toList)
    (one : first.accepts before path = true) (other : second.accepts since path = true) :
    first = second := by
  rw [goesByExtension_of_mem_standard left] at one
  rw [goesByExtension_of_mem_standard right] at other
  by_contra differ
  have : Std.Symm (Function.onFun List.Disjoint FileParser.extensions) :=
    ⟨fun _ _ disjoint _ left right => disjoint right left⟩
  have apart := (List.nodup_flatMap.mp nodup_extensions_standard).2.forall left right differ
  exact apart (List.contains_iff_mem.mp one) (List.contains_iff_mem.mp other)

/-- A path with a language goes to the usual parser of the language. -/
theorem parser?_standard {path : String} {language : Language}
    (known : Language.ofPath? (Path.ofString path) = some language) :
    (standard limits).parser? path = some (usual limits.searching language) := by
  have covers (parser : SourceParser) :
      (parser.language? path).isSome = parser.languages.contains language := by
    rw [SourceParser.language?, known, Option.filter_some]
    cases parser.languages.contains language <;> rfl
  rw [parser?, toList_standard, List.find?_cons, List.find?_cons, FileParser.typescript,
    FileParser.javascript, FileParser.ofSource_accepts, FileParser.ofSource_accepts, covers, covers]
  cases language <;> rfl

/-- The usual parsers of sources do not accept a path without a language. -/
theorem not_accepts {parser : FileParser} {asked : List String} {path : String}
    (unknown : Language.ofPath? (Path.ofString path) = none)
    (member : parser ∈ usualSources limits.searching) :
    parser.accepts asked path = false := by
  have uncovered (sources : SourceParser) : sources.language? path = none := by
    rw [SourceParser.language?, unknown]
    rfl
  simp only [usualSources, List.mem_cons, List.not_mem_nil, or_false] at member
  rcases member with rfl | rfl
  · rw [FileParser.typescript, FileParser.ofSource_accepts, uncovered]
    rfl
  · rw [FileParser.javascript, FileParser.ofSource_accepts, uncovered]
    rfl

/-! ## Dispatch -/

/-- The order of steady parsers is irrelevant if at most one of them accepts a path. -/
theorem ask_eq_of_perm {path : String} {front reordered : List Registration}
    (steady : ∀ registration ∈ front, registration.parser.Steady)
    (unique : {parser | parser ∈ front.map (·.parser) ∧
      parser.accepts [] path = true}.Subsingleton) (same : reordered.Perm front) :
    (ask path reordered).1 = (ask path front).1 := by
  have moved : ∀ registration ∈ reordered, registration.parser.Steady :=
    fun registration member => steady registration (same.subset member)
  rw [ask_eq_find? path front steady, ask_eq_find? path reordered moved]
  exact (List.find?_eq_find?_of_perm (same.symm.map _) unique).symm

/-- A registry of parsers that go by extensions chooses by the extension of a path alone. -/
theorem select_eq_of_extension
    (goes : ∀ parser ∈ registry.toList, parser.GoesByExtension) {path other : String}
    (same : (Path.ofString path).extension = (Path.ofString other).extension) :
    (registry.select path).1 = (registry.select other).1 := by
  have steady : registry.Steady := fun parser member => (goes parser member).steady
  rw [steady.select_eq_parser?, steady.select_eq_parser?, parser?, parser?]
  refine List.find?_congr fun parser member => ?_
  rw [goes parser member, goes parser member, FileParser.hasExtension, FileParser.hasExtension,
    same]

/-- Registering one parser after the other puts them at the end. -/
theorem registrations_foldl_register (registry : Registry) (later : List FileParser) :
    (later.foldl register registry).registrations =
      registry.registrations ++ later.map (⟨·, []⟩) := by
  induction later generalizing registry with
  | nil => simp
  | cons parser later ih => simp [ih, register]

/-- Parsers that are registered later do not change where a path goes that has a parser. -/
theorem select_foldl_register {path : String} {parser : FileParser}
    (found : (registry.select path).1 = some parser) (later : List FileParser) :
    ((later.foldl register registry).select path).1 = some parser := by
  change (ask path _).1 = _ at found ⊢
  rw [registrations_foldl_register, ask_append, found]
  rfl

/-- Dispatch of paths by a registry of the usual parsers and further ones agrees with the choice of
grammars. -/
structure Dispatches (limits : Limits) (registry : Registry) (further : List FileParser) : Prop where
  /-- A path with a language goes to a usual parser of sources, the only one that covers the
  language; no source is refused there for its path. -/
  covered : ∀ path language, Language.ofPath? (Path.ofString path) = some language →
    ∃ parser sources, (registry.select path).1 = some parser ∧ parser.sources = some sources ∧
      (∀ other ∈ usualSources limits.searching, other.Covers language ↔ other = parser) ∧
      parser ∈ usualSources limits.searching ∧
      ∀ bytes other, sources.parse bytes path ≠ .error (.unsupported other)
  /-- A path without a language goes to none of the usual parsers of sources. -/
  uncovered : ∀ path, Language.ofPath? (Path.ofString path) = none →
    ∀ parser ∈ usualSources limits.searching, (registry.select path).1 ≠ some parser
  /-- At most one of the usual parsers accepts a path. -/
  exclusive : ∀ path before since, ∀ first ∈ (standard limits).toList, ∀ second ∈ (standard limits).toList,
    first.accepts before path = true → second.accepts since path = true → first = second
  /-- The order among the usual parsers is irrelevant. -/
  order : ∀ front back, registry.registrations = front ++ back →
    front.map (·.parser) = (standard limits).toList → ∀ reordered : List Registration,
      reordered.Perm front → ∀ path,
        (select ⟨reordered ++ back⟩ path).1 = (registry.select path).1
  /-- If the further parsers go by extensions, so does the registry. -/
  extension : (∀ parser ∈ further, parser.GoesByExtension) → ∀ path other,
    (Path.ofString path).extension = (Path.ofString other).extension →
      (registry.select path).1 = (registry.select other).1
  /-- Parsers that are registered later do not change where a path goes that has a parser, not even
  if paths are asked about in between, as long as the parsers are steady. -/
  kept : ∀ path parser, (registry.select path).1 = some parser →
    (∀ later : List FileParser, ((later.foldl register registry).select path).1 = some parser) ∧
      (registry.Steady → ∀ later grown, Grown registry later grown →
        (grown.select path).1 = some parser)

/-- A path with a language goes to a usual parser of sources, which does not refuse it. -/
theorem Grown.select_covered (grown : Grown (standard limits) further registry) {path : String}
    {language : Language} (known : Language.ofPath? (Path.ofString path) = some language) :
    ∃ parser sources, (registry.select path).1 = some parser ∧ parser.sources = some sources ∧
      (∀ other ∈ usualSources limits.searching, other.Covers language ↔ other = parser) ∧
      parser ∈ usualSources limits.searching ∧
      ∀ bytes other, sources.parse bytes path ≠ .error (.unsupported other) := by
  obtain ⟨back, selected⟩ := grown.select_of_steady (standard_steady limits) path
  rw [parser?_standard known, Option.some_or] at selected
  obtain ⟨sources, made, covers⟩ :=
    (FileParser.covers_iff (FileParser.usual_mem language)).mpr rfl
  refine ⟨usual limits.searching language, sources, selected, made, fun other member => FileParser.covers_iff member,
    FileParser.usual_mem language, fun bytes other refused => ?_⟩
  have uncovered := ((SourceParser.parse_eq_unsupported_iff sources).mp refused).1
  rw [(SourceParser.language?_eq_some_iff sources).mpr ⟨known, covers⟩] at uncovered
  exact Option.some_ne_none language uncovered

/-- A path without a language goes to none of the usual parsers of sources. -/
theorem select_uncovered {path : String}
    (unknown : Language.ofPath? (Path.ofString path) = none) {parser : FileParser}
    (member : parser ∈ usualSources limits.searching) : (registry.select path).1 ≠ some parser := by
  intro selected
  obtain ⟨registration, _, same, accepted⟩ := exists_accepts_of_ask selected
  rw [not_accepts unknown member] at accepted
  exact Bool.false_ne_true accepted

/-- The order among the usual parsers at the front is irrelevant. -/
theorem select_reordered {front back reordered : List Registration}
    (first : front.map (·.parser) = (standard limits).toList) (same : reordered.Perm front)
    (path : String) :
    (select ⟨reordered ++ back⟩ path).1 = (select ⟨front ++ back⟩ path).1 := by
  have usualFront (registration : Registration) (member : registration ∈ front) :
      registration.parser ∈ (standard limits).toList := first ▸ List.mem_map_of_mem member
  have moved : (ask path reordered).1 = (ask path front).1 := by
    refine ask_eq_of_perm (fun registration member => standard_steady limits _ (usualFront _ member))
      (fun one left other right => ?_) same
    rw [Set.mem_ofPred_eq, first] at left right
    exact eq_of_accepts left.1 right.1 left.2 right.2
  change (ask path (reordered ++ back)).1 = (ask path (front ++ back)).1
  rw [ask_append, ask_append, moved]

/-- Dispatch agrees with the choice of grammars in every registry that grew from the usual one. -/
theorem select_dispatches (grown : Grown (standard limits) further registry) :
    Dispatches limits registry further where
  covered := fun _ _ known => grown.select_covered known
  uncovered := fun _ unknown _ member => select_uncovered unknown member
  exclusive := fun _ _ _ _ left _ right => eq_of_accepts left right
  order := by
    rintro front back split first reordered same path
    rw [select_reordered first same, ← split]
  extension := by
    intro goes path other
    refine select_eq_of_extension ?_
    rw [grown.toList_eq]
    exact List.forall_mem_append.mpr ⟨fun _ => goesByExtension_of_mem_standard, goes⟩
  kept := by
    intro path parser found
    refine ⟨select_foldl_register found, fun steady later grown since => ?_⟩
    obtain ⟨back, selected⟩ := since.select_of_steady steady path
    rw [selected, ← steady.select_eq_parser?, found]
    rfl

/-- A parser of notes that asks for typed sources too. -/
def notes : FileParser where
  label := "NotesParser"
  name := "notes"
  extensions := [".md", ".ts"]
  sources := none
  accepts _ path := FileParser.hasExtension [".md", ".ts"] path
  parse _ _ := .ok .empty

/-- The usual parsers and the parser of notes, which was registered after a question. -/
def withNotes : Registry := ((standard .least).select "README.md").2.register notes

/-- Dispatch by the usual parsers and the parser of notes. -/
theorem withNotes_dispatches :
    Grown (standard .least) [notes] withNotes ∧ withNotes.Dispatches .least [notes] ∧
      (withNotes.select "README.md").1.map (·.label) = some "NotesParser" ∧
      (withNotes.select "lib/View.TS").1.map (·.label) = some "TypeScriptParser" := by
  have grown : Grown (standard .least) [notes] withNotes :=
    (Grown.base.asked "README.md").registered notes
  exact ⟨grown, select_dispatches grown, by decide +kernel, by decide +kernel⟩

end Registry

end CodeAtlas
