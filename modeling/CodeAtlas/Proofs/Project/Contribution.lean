import CodeAtlas.Proofs.Dispatch
import CodeAtlas.Proofs.Extract.Validity
import CodeAtlas.Proofs.FileSystem.Spelling
import CodeAtlas.Proofs.Project.Merging
import CodeAtlas.Service

/-!
# What a file contributes

A source is analyzed alike in a project and by itself: what the analysis of a project holds of a
file is what the service answers for its text and its path. All entities of a file are at its path,
and files are spelled differently, so the analysis can be taken apart again by the paths in it:
`Service.analysis_contributions`.
-/
namespace CodeAtlas

/-! ## Files of entities -/

/-- The files in which the entities of an analysis are, those of methods included. -/
def Analysis.files (analysis : Analysis) : List String :=
  analysis.functions.map (·.location.file) ++
    analysis.classes.flatMap fun cls => cls.location.file :: cls.methods.map (·.location.file)

/-- All entities of an analysis are in one file. -/
def Analysis.StandsIn (analysis : Analysis) (file : String) : Prop :=
  ∀ other ∈ analysis.files, other = file

namespace Analysis.StandsIn

variable {analysis : Analysis} {file : String}

/-- The functions are in the file. -/
theorem functions (stands : analysis.StandsIn file) :
    ∀ function ∈ analysis.functions, function.location.file = file :=
  fun _ member => stands _ (List.mem_append_left _ (List.mem_map_of_mem member))

/-- The classes are in the file. -/
theorem classes (stands : analysis.StandsIn file) :
    ∀ cls ∈ analysis.classes, cls.location.file = file :=
  fun cls member => stands _
    (List.mem_append_right _ (List.mem_flatMap.mpr ⟨cls, member, List.mem_cons_self⟩))

end Analysis.StandsIn

/-- What is found in a tree of a source is in the source. -/
theorem Extract.SourceFile.analysis_standsIn (source : SourceFile) (root : Syntax.Node) :
    (source.analysis root).StandsIn source.path := by
  intro other member
  rcases List.mem_append.mp member with inFunctions | inClasses
  · obtain ⟨function, found, rfl⟩ := List.mem_map.mp inFunctions
    obtain ⟨_, _, rfl⟩ := List.mem_map.mp found
    rfl
  · obtain ⟨cls, found, inside⟩ := List.mem_flatMap.mp inClasses
    obtain ⟨_, _, rfl⟩ := List.mem_map.mp found
    rcases List.mem_cons.mp inside with rfl | inMethods
    · rfl
    · obtain ⟨method, found, rfl⟩ := List.mem_map.mp inMethods
      obtain ⟨_, _, rfl⟩ := List.mem_map.mp found
      rfl

/-- What is found in a source is at the path that was given for it. -/
theorem SourceParser.standsIn_of_parse {parser : SourceParser} {bytes : ByteArray} {path : String}
    {analysis : Analysis} (parsed : parser.parse bytes path = .ok analysis) :
    analysis.StandsIn path := by
  cases covered : parser.language? path with
  | none =>
    rw [(parser.parse_eq_unsupported_iff).mpr ⟨covered, rfl⟩] at parsed
    cases parsed
  | some language =>
    rcases parse_ok_or_syntaxFault covered bytes with ⟨root, analyzed⟩ | ⟨line, faulty⟩
    · rw [analyzed] at parsed
      rw [← Except.ok.inj parsed]
      exact Extract.SourceFile.analysis_standsIn _ root
    · rw [faulty] at parsed
      cases parsed

namespace FileParser

variable {limits : Limits} {system : FileSystem} {path : Path} {analysis : Analysis}

/-- A parser that is made for sources reads the file and has it parsed. -/
theorem ofSource_parse (label name : String) (parser : SourceParser) :
    (ofSource label name parser).parse system path =
      (read system path).bind fun bytes => (parser.parse bytes path.text).mapError .source :=
  rfl

/-- What a parser that is made for sources finds is in the file. -/
theorem ofSource_standsIn (label name : String) (parser : SourceParser)
    (parsed : (ofSource label name parser).parse system path = .ok analysis) :
    analysis.StandsIn path.text := by
  rw [ofSource_parse] at parsed
  cases found : read system path with
  | error error =>
    rw [found] at parsed
    cases parsed
  | ok bytes =>
    rw [found, Except.bind] at parsed
    cases outcome : parser.parse bytes path.text with
    | error error =>
      rw [outcome] at parsed
      cases parsed
    | ok found =>
      rw [outcome] at parsed
      cases parsed
      exact SourceParser.standsIn_of_parse outcome

/-- The parser of documents finds nothing. -/
theorem eq_empty_of_yaml {loading : Depth}
    (parsed : (yaml loading).parse system path = .ok analysis) : analysis = .empty := by
  change (read system path).bind _ = _ at parsed
  cases found : read system path with
  | error error =>
    rw [found] at parsed
    cases parsed
  | ok bytes =>
    rw [found, Except.bind] at parsed
    split at parsed
    · cases parsed
    · exact (Except.ok.inj parsed).symm

/-- What a usual parser finds is in the file. -/
theorem standsIn_of_parse {parser : FileParser}
    (usual : parser ∈ (Registry.standard limits).toList)
    (parsed : parser.parse system path = .ok analysis) : analysis.StandsIn path.text := by
  rw [Registry.toList_standard, List.mem_cons, List.mem_cons, List.mem_singleton] at usual
  rcases usual with rfl | rfl | rfl
  · exact ofSource_standsIn _ _ _ parsed
  · exact ofSource_standsIn _ _ _ parsed
  · rw [eq_empty_of_yaml parsed]
    exact List.forall_mem_nil _

/-- The usual parser of a language is made for sources in it. -/
theorem exists_sources (searching : Depth) {path : Path} {language : Language}
    (known : Language.ofPath? (Path.ofString path.text) = some language) :
    ∃ sources, (usual searching language).sources = some sources ∧
      sources.language? path.text = some language ∧
      ∀ system, (usual searching language).parse system path =
        (read system path).bind fun bytes => (sources.parse bytes path.text).mapError .source := by
  have covers (sources : SourceParser) (member : language ∈ sources.languages) :
      sources.language? path.text = some language :=
    (SourceParser.language?_eq_some_iff sources).mpr ⟨known, member⟩
  cases language with
  | typescript =>
    exact ⟨.typescript searching, rfl, covers _ (.head _), fun _ => ofSource_parse _ _ _⟩
  | tsx =>
    exact ⟨.typescript searching, rfl, covers _ (.tail _ (.head _)), fun _ => ofSource_parse _ _ _⟩
  | javascript =>
    exact ⟨.javascript searching, rfl, covers _ (.head _), fun _ => ofSource_parse _ _ _⟩

end FileParser

namespace Project

variable {limits : Limits} {registry : Registry} {system : FileSystem} {files : List Path}
  {file : Path}

/-! ## Taking the analysis apart -/

/-- Of what files with different texts collect, what has the text of one is what that one collects,
if all that is collected has the text of its file. -/
theorem filter_flatMap_text {α : Type} {place : α → String} {collect : Path → List α}
    (own : ∀ path, ∀ item ∈ collect path, place item = path.text)
    (distinct : (files.map Path.text).Nodup) (member : file ∈ files) :
    (files.flatMap collect).filter (place · == file.text) = collect file := by
  have others {path : Path} (differ : path.text ≠ file.text) :
      (collect path).filter (place · == file.text) = [] :=
    List.filter_eq_nil_iff.mpr fun item inside => by simpa [own path item inside] using differ
  induction files with
  | nil => contradiction
  | cons first files ih =>
    obtain ⟨fresh, distinct⟩ := List.nodup_cons.mp distinct
    rw [List.flatMap_cons, List.filter_append]
    rcases List.mem_cons.mp member with rfl | later
    · have all : (collect file).filter (place · == file.text) = collect file :=
        List.filter_eq_self.mpr fun item inside => by simp [own file item inside]
      have none : (files.flatMap collect).filter (place · == file.text) = [] := by
        rw [List.filter_flatMap]
        refine List.flatMap_eq_nil_iff.mpr fun path inside => others fun same => fresh ?_
        exact same ▸ List.mem_map_of_mem inside
      rw [all, none, List.append_nil]
    · have differ : first.text ≠ file.text := fun same =>
        fresh (same ▸ List.mem_map_of_mem later)
      rw [others differ, List.nil_append, ih distinct later]

/-- What a file adds to merged files is in the file, if the parsers are the usual ones. -/
theorem added_standsIn (usual : registry.toList = (Registry.standard limits).toList) (path : Path) :
    (added registry system path).StandsIn path.text := by
  unfold added parsed?
  cases found : registry.parser? path.text with
  | none => exact List.forall_mem_nil _
  | some parser =>
    rw [Option.map_some]
    cases outcome : parser.parse system path with
    | error error => exact List.forall_mem_nil _
    | ok analysis =>
      have member : parser ∈ registry.toList := List.mem_of_find?_eq_some found
      exact FileParser.standsIn_of_parse (usual ▸ member) outcome

end Project

namespace ProjectAnalysis

variable (report : ProjectAnalysis) (file : String)

/-- The functions that are in a file. -/
def functionsIn : List Function := report.result.functions.filter (·.location.file == file)

/-- The classes that are in a file. -/
def classesIn : List Class := report.result.classes.filter (·.location.file == file)

/-- The failures of a file. -/
def failuresOf : List FileFailure := report.failures.filter (·.file == file)

end ProjectAnalysis

namespace Project

variable {limits : Limits} {registry : Registry} {system : FileSystem} {files : List Path}
  {file : Path}

/-- Files that are listed are told apart by their texts. -/
theorem nodup_texts_of_listing {directory : String} (proper : system.top.Proper)
    (slashless : system.top.Slashless) (listed : listing system directory = .ok files) :
    (files.map Path.text).Nodup := by
  unfold listing at listed
  cases named : root system directory with
  | error error =>
    rw [named] at listed
    cases listed
  | ok place =>
    rw [named, Except.bind] at listed
    exact FileSystem.nodup_texts proper slashless listed

/-- A failure of a file names the file. -/
theorem file_of_failure? {path : Path} {failure : FileFailure}
    (failed : failure? registry system path = some failure) : failure.file = path.text := by
  unfold failure? at failed
  split at failed
  · cases failed
    rfl
  · cases failed

/-- What merged files come to holds of one file what it adds, or that it fails. -/
theorem merge_of_file (usual : registry.toList = (Registry.standard limits).toList)
    (distinct : (files.map Path.text).Nodup) (member : file ∈ files)
    (handled : handles registry file = true) :
    (merge registry system files).functionsIn file.text = (added registry system file).functions ∧
      (merge registry system files).classesIn file.text = (added registry system file).classes ∧
      (merge registry system files).failuresOf file.text =
        (failure? registry system file).toList := by
  have chosen : file ∈ files.filter (handles registry) := List.mem_filter.mpr ⟨member, handled⟩
  have apart : ((files.filter (handles registry)).map Path.text).Nodup :=
    distinct.sublist (List.filter_sublist.map _)
  refine ⟨filter_flatMap_text (fun path => (added_standsIn usual path).functions) apart chosen,
    filter_flatMap_text (fun path => (added_standsIn usual path).classes) apart chosen, ?_⟩
  rw [ProjectAnalysis.failuresOf, merge, List.filterMap_eq_flatMap_toList]
  exact filter_flatMap_text (fun path failure failed =>
    file_of_failure? (Option.mem_toList.mp failed)) apart chosen

/-- The files of merged entities are those of the entities that files add. -/
theorem mem_files_merge {other : String} :
    other ∈ (merge registry system files).result.files ↔
      ∃ path ∈ files.filter (handles registry), other ∈ (added registry system path).files := by
  simp only [Analysis.files, merge, List.map_flatMap, List.flatMap_assoc, List.mem_append,
    List.mem_flatMap]
  constructor
  · rintro (⟨path, chosen, inside⟩ | ⟨path, chosen, inside⟩)
    · exact ⟨path, chosen, .inl inside⟩
    · exact ⟨path, chosen, .inr inside⟩
  · rintro ⟨path, chosen, inside | inside⟩
    · exact .inl ⟨path, chosen, inside⟩
    · exact .inr ⟨path, chosen, inside⟩

/-- No file occurs both among the failures of merged files and in their entities. -/
theorem merge_disjoint (usual : registry.toList = (Registry.standard limits).toList)
    (distinct : (files.map Path.text).Nodup) :
    ∀ failure ∈ (merge registry system files).failures,
      failure.file ∉ (merge registry system files).result.files := by
  intro failure member found
  obtain ⟨path, chosen, failed⟩ := List.mem_filterMap.mp member
  obtain ⟨other, also, inside⟩ := mem_files_merge.mp found
  have text : path.text = other.text := by
    rw [← file_of_failure? failed]
    exact added_standsIn usual other _ inside
  obtain rfl : path = other := List.inj_on_of_nodup_map distinct
    (List.mem_of_mem_filter chosen) (List.mem_of_mem_filter also) text
  rw [added_of_failure? system failed] at inside
  cases inside

end Project

/-! ## Contributions -/

/-- What the analysis of a project holds of a file, and what the service answers for its text. -/
inductive Contribution (answer : Json) (report : ProjectAnalysis) (file : String) : Prop where
  /-- The answer is an analysis of entities that are all in the file, and these are, in their order,
  the entities of the project that are in the file; the file does not fail. -/
  | found (analysis : Analysis) (answered : answer = Service.success analysis.toJson)
      (stands : analysis.StandsIn file) (functions : report.functionsIn file = analysis.functions)
      (classes : report.classesIn file = analysis.classes)
      (failures : report.failuresOf file = [])
  /-- The answer is a syntax error on a line, and this is the one failure of the file; no entity is
  in it. -/
  | failed (line : Nat)
      (answered : answer = Service.failure (SourceError.syntaxFault file line).message)
      (functions : report.functionsIn file = []) (classes : report.classesIn file = [])
      (failures : report.failuresOf file = [⟨file, (SourceError.syntaxFault file line).message⟩])

namespace Service

variable {limits : Limits} {service : Service} {system : FileSystem} {files : List Path}
  {file : Path}

/-- A registry with the usual parsers has for a path with a language the usual parser of it. -/
theorem parser?_of_usual {registry : Registry}
    (usual : registry.toList = (Registry.standard limits).toList) {path : String}
    {language : Language}
    (known : Language.ofPath? (Path.ofString path) = some language) :
    registry.parser? path = some (FileParser.usual limits.searching language) := by
  rw [Registry.parser?_of_toList_eq usual, Registry.parser?_standard known]

/-- A service with the usual parsers asks the one of the language about a source. -/
theorem select_sources (usual : service.registry.toList = (Registry.standard limits).toList)
    {path : String} {language : Language}
    (known : Language.ofPath? (Path.ofString path) = some language) :
    (service.registry.select path).1.bind (·.sources) =
      (FileParser.usual limits.searching language).sources := by
  have steady := (Registry.standard_steady limits).of_toList_eq usual
  rw [steady.select_eq_parser?, parser?_of_usual usual known, Option.bind_some]

/-- A syntax error leaves a note of what it says. -/
theorem note_syntaxFault (path : String) (line : Nat) :
    (FileError.source (.syntaxFault path line)).note =
      (SourceError.syntaxFault path line).message := by
  have occupied : (SourceError.syntaxFault path line).message ≠ "" := by
    intro nothing
    have chars := congrArg String.toList nothing
    unfold SourceError.message at chars
    simp only [String.toList_append] at chars
    simp at chars
  unfold FileError.note FileError.message
  exact if_neg occupied

/-- What comes of a source in a project is what the service answers for its text. -/
theorem merge_contribution (usual : service.registry.toList = (Registry.standard limits).toList)
    (distinct : (files.map Path.text).Nodup) (member : file ∈ files) {language : Language}
    (known : Language.ofPath? (Path.ofString file.text) = some language) {code : String}
    (found : system.read file = .ok code.toUTF8) :
    Contribution (service.analyzeCode code file.text)
      (Project.merge service.registry system files) file.text := by
  obtain ⟨sources, made, covered, parses⟩ := FileParser.exists_sources limits.searching known
  have parser := parser?_of_usual usual known
  have selected := (select_sources usual known).trans made
  have parsed : Project.parsed? service.registry system file =
      some ((sources.parse code.toUTF8 file.text).mapError .source) := by
    have bytes : FileParser.read system file = .ok code.toUTF8 := by
      rw [FileParser.read, found, Except.mapError]
    rw [Project.parsed?, parser, Option.map_some, parses, bytes, Except.bind]
  have handled : Project.handles service.registry file = true := by
    rw [Project.handles, parser, Option.isSome_some]
  obtain ⟨functions, classes, failures⟩ := Project.merge_of_file usual distinct member handled
  rw [Project.added, parsed] at functions classes
  rw [Project.failure?, parsed] at failures
  rcases SourceParser.parse_ok_or_syntaxFault covered code.toUTF8 with
    ⟨root, analyzed⟩ | ⟨line, faulty⟩
  · have answered : service.analyzeCode code file.text =
        success (Extract.SourceFile.analysis ⟨file.text, language, code.toUTF8⟩ root).toJson := by
      rw [analyzeCode, selected]
      simp only [analyzed]
    rw [analyzed, Except.mapError] at functions classes failures
    exact .found _ answered (Extract.SourceFile.analysis_standsIn _ root) functions classes failures
  · have answered : service.analyzeCode code file.text =
        failure (SourceError.syntaxFault file.text line).message := by
      rw [analyzeCode, selected]
      simp only [faulty]
    rw [faulty, Except.mapError] at functions classes failures
    dsimp only at failures
    rw [note_syntaxFault] at failures
    exact .failed line answered functions classes failures

/-- In a proper tree whose names have no slashes, the analysis of a project holds of each source
what the service answers for its text and its path, be it an analysis or a syntax error, and no file
both fails and has entities. -/
theorem analysis_contributions (usual : service.registry.toList = (Registry.standard limits).toList)
    (proper : system.top.Proper) (slashless : system.top.Slashless) {directory : String}
    (listed : Project.listing system directory = .ok files) :
    ∃ report, service.analysis system directory = .ok report ∧
      (∀ file ∈ files, ∀ language, Language.ofPath? (Path.ofString file.text) = some language →
        ∀ code : String, system.read file = .ok code.toUTF8 →
          Contribution (service.analyzeCode code file.text) report file.text) ∧
      ∀ failure ∈ report.failures, failure.file ∉ report.result.files := by
  have distinct := Project.nodup_texts_of_listing proper slashless listed
  have steady := (Registry.standard_steady limits).of_toList_eq usual
  exact ⟨_, Project.analyze_eq_merge system steady listed,
    fun file member language known code found =>
      merge_contribution usual distinct member known found,
    Project.merge_disjoint usual distinct⟩

/-- A source without a syntax error. -/
def soundCode : String := "class A \x7b m() \x7b\x7d \x7d"

/-- A source with a syntax error. -/
def faultyCode : String := "function ("

/-- A directory of two sources. -/
def twoSources : FileSystem :=
  .plain (.directory [("p", .directory
    [("a.ts", .file soundCode.toUTF8), ("b.js", .file faultyCode.toUTF8)])])

/-- Of two sources one has an analysis and one a syntax error, in the project as by itself. -/
theorem contributions_twoSources :
    (Syntax.parse .typescript soundCode.toUTF8.toList).hasError = false ∧
      (Syntax.parse .javascript faultyCode.toUTF8.toList).hasError = true ∧
      ∃ service report, start .least .standard = .ok service ∧
        service.analysis twoSources "p" = .ok report ∧
        Contribution (service.analyzeCode soundCode "p/a.ts") report "p/a.ts" ∧
        Contribution (service.analyzeCode faultyCode "p/b.js") report "p/b.js" ∧
        ∀ failure ∈ report.failures, failure.file ∉ report.result.files := by
  have proper : twoSources.top.Proper := by
    refine .directory (by decide) (List.forall_mem_singleton.mpr (by decide))
      (List.forall_mem_singleton.mpr (.directory (by decide) (by decide) ?_))
    exact List.forall_mem_cons.mpr ⟨.file _, List.forall_mem_singleton.mpr (.file _)⟩
  have slashless : twoSources.top.Slashless := by
    refine .directory (List.forall_mem_singleton.mpr (by decide))
      (List.forall_mem_singleton.mpr (.directory (by decide) ?_))
    exact List.forall_mem_cons.mpr ⟨.file _, List.forall_mem_singleton.mpr (.file _)⟩
  have listed : Project.listing twoSources "p" = .ok [⟨0, ["p", "a.ts"]⟩, ⟨0, ["p", "b.js"]⟩] :=
    rfl
  obtain ⟨service, started⟩ : ∃ service, start .least .standard = .ok service := ⟨_, rfl⟩
  have usual : service.registry.toList = (Registry.standard .least).toList := by
    cases started
    rfl
  obtain ⟨report, analyzed, contributions, disjoint⟩ :=
    service.analysis_contributions usual proper slashless listed
  refine ⟨by decide +kernel, by decide +kernel, service, report, started, analyzed, ?_, ?_,
    disjoint⟩
  · exact contributions _ (.head _) .typescript (by decide +kernel) soundCode rfl
  · exact contributions _ (.tail _ (.head _)) .javascript (by decide +kernel) faultyCode rfl

end Service

end CodeAtlas
