import CodeAtlas.Project
import CodeAtlas.Proofs.Registry
import Mathlib.Data.List.Basic

/-!
# Merging files

The analysis of a project is put together from what comes of each listed file that has a parser, in
the order of the listing. What comes of one file has a segment of its own in each list of the
analysis and no influence on anything outside of it: `analyze_merges`.
-/
namespace CodeAtlas

/-- Every file error leaves a note. -/
theorem FileError.note_ne_empty (error : FileError) : error.note ≠ "" := by
  unfold note
  split
  · cases error with
    | failed kind reason => exact kind.named
    | unreadable path cause => exact (by decide : "unknown" ≠ "")
    | source error => exact (by decide : "unknown" ≠ "")
    | document fault => exact (by decide : "unknown" ≠ "")
  · assumption

namespace Project

variable (registry : Registry) (system : FileSystem)

/-- Whether there is a parser for a file. -/
def handles (path : Path) : Bool := (registry.parser? path.text).isSome

/-- What the first parser that accepts a path makes of the file there. -/
def parsed? (path : Path) : Option (Except FileError Analysis) :=
  (registry.parser? path.text).map (·.parse system path)

/-- The entities that a file adds to the analysis; a file that fails adds none. -/
def added (path : Path) : Analysis :=
  match parsed? registry system path with
  | some (.ok analysis) => analysis
  | _ => .empty

/-- The failure that is recorded for a file, if it fails. -/
def failure? (path : Path) : Option FileFailure :=
  match parsed? registry system path with
  | some (.error error) => some ⟨path.text, error.note⟩
  | _ => none

variable {registry}

/-- A steady registry accepts the files that it has a parser for, and keeps its parsers. -/
theorem accepted_eq (steady : registry.Steady) (files : List Path) :
    (accepted registry files).1 = files.filter (handles registry) ∧
      (accepted registry files).2.toList = registry.toList := by
  induction files generalizing registry with
  | nil => exact ⟨rfl, rfl⟩
  | cons path paths ih =>
    have kept : (registry.accepts path.text).2.toList = registry.toList :=
      registry.toList_accepts path.text
    have others := ih (steady.of_toList_eq kept)
    have same : handles (registry.accepts path.text).2 = handles registry :=
      funext fun other => congrArg Option.isSome (Registry.parser?_of_toList_eq kept other.text)
    rw [same, kept] at others
    refine ⟨?_, others.2⟩
    simp only [accepted, steady.accepts_eq_isSome, others.1, List.filter_cons]
    rfl

/-- A steady registry gives each file to the first parser that accepts it. -/
theorem outcomes_eq (steady : registry.Steady) (files : List Path) :
    (outcomes system registry files).1 =
      files.map fun path => outcome system path (registry.parser? path.text) := by
  induction files generalizing registry with
  | nil => rfl
  | cons path paths ih =>
    have kept : (registry.select path.text).2.toList = registry.toList :=
      registry.toList_select path.text
    have others := ih (steady.of_toList_eq kept)
    simp only [Registry.parser?_of_toList_eq kept] at others
    simp only [outcomes, steady.select_eq_parser?, others, List.map_cons]

/-- What comes of a file is a failure, or what the file adds. -/
theorem outcome_parser? (path : Path) :
    outcome system path (registry.parser? path.text) =
      match failure? registry system path with
      | some failure => .failed failure
      | none => .found (added registry system path) := by
  unfold outcome failure? added parsed?
  cases registry.parser? path.text with
  | none => rfl
  | some parser =>
    dsimp only [Option.map_some]
    cases parser.parse system path <;> rfl

/-- A file that fails adds nothing. -/
theorem added_of_failure? {path : Path} {failure : FileFailure}
    (failed : failure? registry system path = some failure) :
    added registry system path = .empty := by
  unfold failure? at failed
  unfold added
  split at failed
  · rename_i error parsed
    simp only [parsed]
  · contradiction

/-- There is a parser for a file exactly if something is made of it. -/
theorem handles_eq (path : Path) :
    handles registry path = (parsed? registry system path).isSome :=
  Option.isSome_map.symm

/-- A file without a parser adds nothing. -/
theorem added_of_not_handles {path : Path} (missing : handles registry path = false) :
    added registry system path = .empty := by
  rw [handles_eq system, Option.isSome_eq_false_iff, Option.isNone_iff_eq_none] at missing
  simp only [added, missing]

/-- A file without a parser does not fail. -/
theorem failure?_of_not_handles {path : Path} (missing : handles registry path = false) :
    failure? registry system path = none := by
  rw [handles_eq system, Option.isSome_eq_false_iff, Option.isNone_iff_eq_none] at missing
  simp only [failure?, missing]

/-- The analyses of files, joined, have what the files add, in order. -/
theorem joined_outcomes (files : List Path) :
    joined (files.map fun path => outcome system path (registry.parser? path.text)) =
      ⟨files.flatMap fun path => (added registry system path).functions,
        files.flatMap fun path => (added registry system path).classes⟩ := by
  induction files with
  | nil => rfl
  | cons path paths ih =>
    rw [List.map_cons, outcome_parser?]
    cases failed : failure? registry system path with
    | none =>
      simp only [joined, ih, List.flatMap_cons]
      rfl
    | some failure =>
      simp only [joined, ih, List.flatMap_cons, added_of_failure? system failed]
      rfl

/-- The failures of files are the recorded ones. -/
theorem failures_outcomes (files : List Path) :
    failures (files.map fun path => outcome system path (registry.parser? path.text)) =
      files.filterMap (failure? registry system) := by
  simp only [failures, List.filterMap_map]
  congr 1
  funext path
  simp only [Function.comp, outcome_parser?]
  cases failure? registry system path <;> rfl

/-! ## The merged analysis -/

/-- What listed files come to: the entities and the failures of those that are accepted. -/
def merge (registry : Registry) (system : FileSystem) (files : List Path) : ProjectAnalysis :=
  let accepted := files.filter (handles registry)
  { result :=
      { functions := accepted.flatMap fun path => (added registry system path).functions
        classes := accepted.flatMap fun path => (added registry system path).classes }
    failures := accepted.filterMap (failure? registry system)
    filesScanned := files.length
    filesAnalyzed := accepted.length }

/-- The files of the project in a directory. -/
def listing (system : FileSystem) (directory : String) :
    Except FileSystem.RootError (List Path) :=
  (root system directory).bind (system.files FileSystem.ignoredNames)

/-- The analysis of listed files by steady parsers is what they come to. -/
theorem analyze_eq_merge {directory : String} {files : List Path} (steady : registry.Steady)
    (listed : listing system directory = .ok files) :
    (analyze registry system directory).1 = .ok (merge registry system files) := by
  have chosen := accepted_eq steady files
  have found := outcomes_eq system (steady.of_toList_eq chosen.2)
    (files.filter (handles registry))
  simp only [Registry.parser?_of_toList_eq chosen.2] at found
  unfold listing at listed
  simp only [analyze, listed, chosen.1, found, joined_outcomes, failures_outcomes]
  rfl

/-- Two lists are equal but for one segment. -/
def DifferIn {α : Type} (segment replacement list other : List α) : Prop :=
  ∃ front back, list = front ++ segment ++ back ∧ other = front ++ replacement ++ back

/-- What two runs collect from kept files differs in the segment of one file, if they agree on all
others and collect nothing from a file that they do not keep. -/
theorem differIn_flatMap {α : Type} {keep keep' : Path → Bool} {collect collect' : Path → List α}
    {before after : List Path} {file : Path}
    (agree : ∀ path ∈ before ++ after, keep' path = keep path ∧ collect' path = collect path)
    (quiet : keep file = false → collect file = [])
    (quiet' : keep' file = false → collect' file = []) :
    DifferIn (collect file) (collect' file)
      (((before ++ file :: after).filter keep).flatMap collect)
      (((before ++ file :: after).filter keep').flatMap collect') := by
  have same (paths : List Path) (part : paths ⊆ before ++ after) :
      (paths.filter keep').flatMap collect' = (paths.filter keep).flatMap collect := by
    rw [List.filter_congr fun path member => (agree path (part member)).1]
    exact List.flatMap_congr fun path member =>
      (agree path (part (List.mem_of_mem_filter member))).2
  -- Whether a file without a segment is kept makes no difference.
  have own {keep : Path → Bool} {collect : Path → List α}
      (quiet : keep file = false → collect file = []) :
      ([file].filter keep).flatMap collect = collect file := by
    cases kept : keep file <;> simp_all
  refine ⟨(before.filter keep).flatMap collect, (after.filter keep).flatMap collect, ?_, ?_⟩
  · rw [← own quiet, ← List.singleton_append, ← List.append_assoc, List.filter_append,
      List.filter_append, List.flatMap_append, List.flatMap_append]
  · rw [← own quiet', ← List.singleton_append, ← List.append_assoc, List.filter_append,
      List.filter_append, List.flatMap_append, List.flatMap_append,
      same before (List.subset_append_left before after),
      same after (List.subset_append_right before after)]

/-- What the analysis of listed files consists of. -/
structure Merged (registry : Registry) (system : FileSystem) (files : List Path)
    (analysis : ProjectAnalysis) : Prop where
  /-- The functions are those that the accepted files add, in order. -/
  functions : analysis.result.functions =
    (files.filter (handles registry)).flatMap fun path => (added registry system path).functions
  /-- The classes are those that the accepted files add, in order. -/
  classes : analysis.result.classes =
    (files.filter (handles registry)).flatMap fun path => (added registry system path).classes
  /-- Each accepted file that fails is recorded once, in order. -/
  failures : analysis.failures =
    (files.filter (handles registry)).filterMap (failure? registry system)
  /-- Every failure is explained. -/
  explained : ∀ failure ∈ analysis.failures, failure.error ≠ ""
  /-- A file that fails adds no entity. -/
  failed_adds_nothing : ∀ path failure,
    failure? registry system path = some failure → added registry system path = .empty
  /-- The listed files are counted. -/
  filesScanned : analysis.filesScanned = files.length
  /-- The accepted files are counted. -/
  filesAnalyzed : analysis.filesAnalyzed = (files.filter (handles registry)).length

/-- What comes of listed files is merged from what comes of each. -/
theorem merge_merged (files : List Path) :
    Merged registry system files (merge registry system files) where
  functions := rfl
  classes := rfl
  failures := rfl
  explained := by
    intro failure member
    obtain ⟨path, _, failed⟩ := List.mem_filterMap.mp member
    unfold failure? at failed
    split at failed
    · rename_i error _
      cases failed
      exact error.note_ne_empty
    · contradiction
  failed_adds_nothing := fun _ _ failed => added_of_failure? system failed
  filesScanned := rfl
  filesAnalyzed := rfl

/-- Two analyses of the same files differ only in what comes of one of them. -/
structure ChangedAt (file : Path) (registry registry' : Registry) (system system' : FileSystem)
    (analysis analysis' : ProjectAnalysis) : Prop where
  /-- The functions differ in those of the file. -/
  functions : DifferIn (added registry system file).functions
    (added registry' system' file).functions analysis.result.functions analysis'.result.functions
  /-- The classes differ in those of the file. -/
  classes : DifferIn (added registry system file).classes
    (added registry' system' file).classes analysis.result.classes analysis'.result.classes
  /-- The failures differ in that of the file. -/
  failures : DifferIn (failure? registry system file).toList
    (failure? registry' system' file).toList analysis.failures analysis'.failures

/-- Changing what comes of one file changes its segment of each list. -/
theorem merge_changedAt {registry' : Registry} {system' : FileSystem} {before after : List Path}
    {file : Path} (agree : ∀ path ∈ before ++ after,
      parsed? registry' system' path = parsed? registry system path) :
    ChangedAt file registry registry' system system'
      (merge registry system (before ++ file :: after))
      (merge registry' system' (before ++ file :: after)) := by
  have handled : ∀ path ∈ before ++ after, handles registry' path = handles registry path := by
    intro path member
    rw [handles_eq system' path, agree path member, handles_eq system path]
  refine ⟨differIn_flatMap ?_ ?_ ?_, differIn_flatMap ?_ ?_ ?_, ?_⟩
  · exact fun path member => ⟨handled path member, by simp only [added, agree path member]⟩
  · exact fun missing => by rw [added_of_not_handles system missing]; rfl
  · exact fun missing => by rw [added_of_not_handles system' missing]; rfl
  · exact fun path member => ⟨handled path member, by simp only [added, agree path member]⟩
  · exact fun missing => by rw [added_of_not_handles system missing]; rfl
  · exact fun missing => by rw [added_of_not_handles system' missing]; rfl
  · simp only [merge, List.filterMap_eq_flatMap_toList]
    refine differIn_flatMap ?_ ?_ ?_
    · exact fun path member => ⟨handled path member, by simp only [failure?, agree path member]⟩
    · exact fun missing => by rw [failure?_of_not_handles system missing]; rfl
    · exact fun missing => by rw [failure?_of_not_handles system' missing]; rfl

/-- The analysis of a project is merged from what comes of each listed file, and what comes of one
file touches nothing else. -/
theorem analyze_merges {directory : String} {files : List Path} (steady : registry.Steady)
    (listed : listing system directory = .ok files) :
    ∃ analysis, (analyze registry system directory).1 = .ok analysis ∧
      Merged registry system files analysis ∧
      ∀ registry' system' directory' before file after, registry'.Steady →
        listing system' directory' = .ok files → files = before ++ file :: after →
        (∀ path ∈ before ++ after,
          parsed? registry' system' path = parsed? registry system path) →
        ∃ analysis', (analyze registry' system' directory').1 = .ok analysis' ∧
          ChangedAt file registry registry' system system' analysis analysis' := by
  refine ⟨merge registry system files, analyze_eq_merge system steady listed,
    merge_merged system files, ?_⟩
  rintro registry' system' directory' before file after steady' listed' rfl agree
  exact ⟨_, analyze_eq_merge system' steady' listed', merge_changedAt system agree⟩

/-- A parser of sources that finds one function in each, but fails at one without saying why. -/
def moody (broken : String) : FileParser where
  label := "Moody"
  name := "moody"
  extensions := []
  sources := none
  accepts _ path := path != "p/c.md"
  parse _ path :=
    if path.text = broken then .error (.failed "Broken" "")
    else .ok ⟨[⟨"f", [], "any", none, "", ⟨path.text, 1, 1⟩⟩], []⟩

/-- A directory of four files, one of them without a parser. -/
def fourFiles : FileSystem :=
  .plain (.directory [("p", .directory
    [("a.x", .file .empty), ("b.x", .file .empty), ("c.md", .file .empty), ("d.x", .file .empty)])])

/-- The second of four files fails without a reason, and is recorded by the kind of its failure;
when it does not fail, only its own function comes in. -/
theorem analyze_merges_moody :
    ∃ analysis analysis',
      (analyze (.ofList [moody "p/b.x"]) fourFiles "p").1 = .ok analysis ∧
      Merged (.ofList [moody "p/b.x"]) fourFiles
        [⟨0, ["p", "a.x"]⟩, ⟨0, ["p", "b.x"]⟩, ⟨0, ["p", "c.md"]⟩, ⟨0, ["p", "d.x"]⟩] analysis ∧
      analysis.failures = [⟨"p/b.x", "Broken"⟩] ∧
      (analyze (.ofList [moody "none"]) fourFiles "p").1 = .ok analysis' ∧
      ChangedAt ⟨0, ["p", "b.x"]⟩ (.ofList [moody "p/b.x"]) (.ofList [moody "none"])
        fourFiles fourFiles analysis analysis' := by
  have steady (broken : String) : (Registry.ofList [moody broken]).Steady := by
    intro parser member
    obtain rfl := List.mem_singleton.mp member
    exact fun _ _ => rfl
  have listed : listing fourFiles "p" = .ok
      [⟨0, ["p", "a.x"]⟩, ⟨0, ["p", "b.x"]⟩, ⟨0, ["p", "c.md"]⟩, ⟨0, ["p", "d.x"]⟩] := rfl
  obtain ⟨analysis, analyzed, merged, changes⟩ :=
    analyze_merges fourFiles (steady "p/b.x") listed
  obtain ⟨analysis', analyzed', changed⟩ := changes (.ofList [moody "none"]) fourFiles "p"
    [⟨0, ["p", "a.x"]⟩] ⟨0, ["p", "b.x"]⟩ [⟨0, ["p", "c.md"]⟩, ⟨0, ["p", "d.x"]⟩]
    (steady "none") listed rfl (by
      intro path member
      simp only [List.cons_append, List.nil_append, List.mem_cons, List.not_mem_nil,
        or_false] at member
      rcases member with rfl | rfl | rfl <;> rfl)
  exact ⟨analysis, analysis', analyzed, merged, merged.failures, analyzed', changed⟩

end Project

end CodeAtlas
