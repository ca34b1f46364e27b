import CodeAtlas.FileSystem.Change
import CodeAtlas.Proofs.Dialogue.Conversation
import CodeAtlas.Proofs.FileSystem.Exactness

/-!
# Roots that cannot be listed

A root that is no directory or cannot be listed is reported by its path, and the tools answer with
the report, exactly if the path is known and can be followed. A home directory that is not known,
a path or a name on its way that is too long, and a directory on its way that may not be passed
through, escape: `bad_root_reported_iff`.
-/
namespace CodeAtlas

namespace FileSystem

variable {system : FileSystem} {path : Path}

/-- A root error is about the root itself, which has a path. -/
def RootError.Names (path : String) : RootError → Prop
  | .missing other | .notADirectory other | .unreadable other _ => other = path
  | .unknownHome | .access _ | .tooDeep => False

/-- A path whose entries cannot be listed is named by the error of its listing, unless it is
blocked. -/
theorem exists_error_of_unlistable (ignored : List String)
    (unlistable : ∀ entries, system.entries path ≠ .ok entries) :
    ∃ error, system.files ignored path = .error error ∧
      (system.Blocked path ∧ (∃ cause, error = .access cause ∧ cause.fault.Blocks) ∨
        ¬system.Blocked path ∧ error.Names path.text) := by
  cases located : system.locate true path with
  | error fault =>
    by_cases blocked : fault.Blocks
    · refine ⟨.access ⟨fault, path.text⟩, ?_, .inl ⟨⟨fault, blocked, located⟩, _, rfl, blocked⟩⟩
      simp [files, exists?, ask, located, blocked.meansAbsent]
    · have absent := (locate_error located).resolve_right blocked
      refine ⟨.missing path.text, ?_, .inr ⟨?_, rfl⟩⟩
      · simp [files, exists?, ask, located, absent]
      · rintro ⟨other, blocks, stopped⟩
        cases located.symm.trans stopped
        exact blocked blocks
  | ok found =>
    obtain ⟨place, entry⟩ := found
    have followed : ¬system.Blocked path := by
      rintro ⟨fault, _, stopped⟩
      cases located.symm.trans stopped
    have there : system.exists? path = .ok true := by simp [exists?, ask, located]
    have asked : system.isDirectory path = .ok entry.isDirectory := by
      simp [isDirectory, ask, located]
    cases directory : entry.isDirectory with
    | false =>
      refine ⟨.notADirectory path.text, ?_, .inr ⟨followed, rfl⟩⟩
      simp [files, there, asked, directory]
    | true =>
      cases listed : system.entries path with
      | ok entries => exact absurd listed (unlistable entries)
      | error cause =>
        refine ⟨.unreadable path.text cause, ?_, .inr ⟨followed, rfl⟩⟩
        simp [files, there, asked, directory, listed]

/-- A name that is too long cannot be followed, and its listing does not name it. -/
theorem files_longName (ignored : List String) (passes : system.impassable system.working = false)
    {name : String} (plain : '\x00' ∉ name.toList) (long : nameLimit < name.utf8ByteSize) :
    system.files ignored ⟨0, [name]⟩ = .error (.access ⟨.nameTooLong, name⟩) := by
  have text : (Path.mk 0 [name]).text = name := by simp [Path.text]
  have stopped : system.locate true ⟨0, [name]⟩ = .error .nameTooLong := by
    by_cases whole : pathLimit < name.utf8ByteSize
    · simp [locate, text, plain, whole]
    · have self : name ≠ "." := by
        rintro rfl
        contradiction
      have up : name ≠ ".." := by
        rintro rfl
        contradiction
      have start : system.base ⟨0, [name]⟩ = system.working := rfl
      rw [locate_eq (by rwa [text]) (by rwa [text]), namesTo_of_occupied (List.cons_ne_nil _ _),
        start, resolve]
      simp [advance, passes, self, up, long]
  simp [files, exists?, ask, stopped, Fault.meansAbsent, text]

/-- Only the home directory of a path fails to be found, and then nothing is known of the path. -/
theorem expandHome_error {error : RootError} (failed : system.expandHome path = .error error) :
    error = .unknownHome ∨ ∃ name, error = .access ⟨.nullCharacter, name⟩ := by
  unfold expandHome at failed
  split at failed
  · split_ifs at failed
    · exact .inr ⟨_, (Except.error.inj failed).symm⟩
    · split at failed
      · contradiction
      · exact .inl (Except.error.inj failed).symm
  · contradiction

end FileSystem

namespace Project

open FileSystem

variable {system : FileSystem} {directory : String}

/-- The path of the root of a project is known and can be followed. -/
def Followable (system : FileSystem) (directory : String) : Prop :=
  ∃ place, root system directory = .ok place ∧ ¬system.Blocked place

/-- The root of a project is in the home directory of a user whose name has a null character. -/
def OfNullName (system : FileSystem) (directory : String) : Prop :=
  ∃ name, root system directory = .error (.access ⟨.nullCharacter, name⟩)

/-- If a root that cannot be listed can be followed, the listing names its path. -/
theorem listing_of_followable (unreadable : ¬Readable system directory)
    (followable : Followable system directory) :
    ∃ place error, root system directory = .ok place ∧
      listing system directory = .error error ∧ error.Names place.text := by
  obtain ⟨place, named, followed⟩ := followable
  have unlistable entries : system.entries place ≠ .ok entries := by
    intro listed
    exact unreadable
      ⟨place, entries, named, system.isDirectory_of_opens ⟨entries, listed⟩, listed⟩
  obtain ⟨error, failed, ⟨blocked, _⟩ | ⟨_, names⟩⟩ :=
    exists_error_of_unlistable ignoredNames unlistable
  · exact absurd blocked followed
  · refine ⟨place, error, named, ?_, names⟩
    rw [listing, named]
    exact failed

/-- If a root cannot be followed, the listing fails without naming a path. -/
theorem listing_of_unfollowable (unfollowable : ¬Followable system directory) :
    ∃ error, listing system directory = .error error ∧
      (error = .unknownHome ∨ ∃ cause, error = .access cause) ∧
      ((∃ name, error = .access ⟨.nullCharacter, name⟩) ↔ OfNullName system directory) := by
  unfold listing OfNullName
  cases named : root system directory with
  | error error =>
    refine ⟨error, rfl, ?_, by simp⟩
    rcases expandHome_error named with unknown | ⟨name, null⟩
    · exact .inl unknown
    · exact .inr ⟨_, null⟩
  | ok place =>
    have blocked : system.Blocked place := by
      by_contra followed
      exact unfollowable ⟨place, named, followed⟩
    have unlistable entries : system.entries place ≠ .ok entries := by
      intro listed
      obtain ⟨location, located, _⟩ := system.exists_place_of_entries listed
      obtain ⟨fault, _, stopped⟩ := blocked
      cases stopped.symm.trans located
    obtain ⟨error, failed, ⟨_, ⟨fault, text⟩, rfl, blocks⟩ | ⟨followed, _⟩⟩ :=
      exists_error_of_unlistable ignoredNames unlistable
    · refine ⟨_, failed, .inr ⟨_, rfl⟩, iff_of_false ?_ (by simp)⟩
      rintro ⟨name, same⟩
      cases same
      cases blocks
    · exact absurd blocked followed

end Project

namespace Service

open FileSystem Project

/-- The tools report exactly the errors that name a path, and a null character if chunks are asked
for. -/
theorem rootFailure_reported_iff (error : RootError) :
    ((∃ message, rootFailure error = .ok (failure message)) ↔ ∃ path, error.Names path) ∧
      ((∃ message, chunkRootFailure error = .ok (failure message)) ↔
        (∃ path, error.Names path) ∨ ∃ name, error = .access ⟨.nullCharacter, name⟩) := by
  cases error with
  | missing path => simp [rootFailure, chunkRootFailure, RootError.Names]
  | notADirectory path => simp [rootFailure, chunkRootFailure, RootError.Names]
  | unreadable path cause => simp [rootFailure, chunkRootFailure, RootError.Names]
  | unknownHome => simp [rootFailure, chunkRootFailure, RootError.Names]
  | tooDeep => simp [rootFailure, chunkRootFailure, RootError.Names]
  | access cause =>
    obtain ⟨fault, path⟩ := cause
    cases fault <;> simp [rootFailure, chunkRootFailure, RootError.Names]

/-- An error that names no path escapes. -/
theorem rootFailure_of_unnamed {error : RootError}
    (unnamed : error = .unknownHome ∨ ∃ cause, error = .access cause) :
    rootFailure error = .error (.root error) ∧ ∀ path, ¬error.Names path := by
  rcases unnamed with rfl | ⟨cause, rfl⟩
  · exact ⟨rfl, fun path => id⟩
  · exact ⟨rfl, fun path => id⟩

variable (service : Service) {system : FileSystem} {directory : String}

/-- What is at a path and cannot be listed is reported by its path exactly if the path can be
followed. A root that cannot be listed is reported by its path, and the tools answer with a failure,
exactly if its path is known and can be followed; the chunks also fail so for a null character in
the name of a user. Otherwise the error escapes. -/
theorem bad_root_reported_iff (unreadable : ¬Readable system directory) :
    (∀ ignored path, (∀ entries, system.entries path ≠ .ok entries) →
      ((∃ error, system.files ignored path = .error error ∧ error.Names path.text) ↔
        ¬system.Blocked path)) ∧
    ((∃ place error, root system directory = .ok place ∧
        service.analysis system directory = .error error ∧ error.Names place.text) ↔
      Followable system directory) ∧
    ((∃ message, service.analyzeProject system directory = .ok (failure message)) ↔
      Followable system directory) ∧
    (∀ units,
      (∃ message, service.chunkAnalysis system directory units = .ok (failure message)) ↔
        Followable system directory ∨ OfNullName system directory) ∧
    (¬Followable system directory →
      ∃ error, service.analyzeProject system directory = .error (.root error) ∧
        (error = .unknownHome ∨ ∃ cause, error = .access cause)) := by
  have analyzed {error : RootError} (failed : listing system directory = .error error) :
      service.analysis system directory = .error error ∧
        service.analyzeProject system directory = rootFailure error ∧
        ∀ units, service.chunkAnalysis system directory units = chunkRootFailure error := by
    have same : service.analysis system directory = .error error := analyze_error_iff.mpr failed
    refine ⟨same, ?_, fun units => ?_⟩
    · unfold analyzeProject
      rw [same]
    · unfold chunkAnalysis
      rw [same]
  refine ⟨fun ignored path unlistable => ?_, ?_⟩
  · obtain ⟨error, failed, ⟨blocked, cause, rfl, _⟩ | ⟨followed, names⟩⟩ :=
      exists_error_of_unlistable ignored unlistable
    · simp [failed, blocked, RootError.Names]
    · simp [failed, followed, names]
  by_cases followable : Followable system directory
  · obtain ⟨place, error, named, failed, names⟩ := listing_of_followable unreadable followable
    obtain ⟨analysis, answer, chunks⟩ := analyzed failed
    have reported := (rootFailure_reported_iff error).1.mpr ⟨_, names⟩
    have told := (rootFailure_reported_iff error).2.mpr (.inl ⟨_, names⟩)
    simp only [followable, answer, chunks, reported, told, true_or, iff_true, not_true,
      false_implies, implies_true, and_true]
    exact ⟨place, error, named, analysis, names⟩
  · obtain ⟨error, failed, unnamed, null⟩ := listing_of_unfollowable followable
    obtain ⟨analysis, answer, chunks⟩ := analyzed failed
    obtain ⟨escapes, silent⟩ := rootFailure_of_unnamed unnamed
    have nameless : ¬∃ path, error.Names path := not_exists.mpr silent
    simp only [followable, answer, chunks, rootFailure_reported_iff, nameless, null, false_or,
      iff_false, analysis, implies_true, true_and, not_false_iff, true_implies]
    refine ⟨?_, ⟨error, escapes, unnamed⟩⟩
    rintro ⟨place, other, _, same, names⟩
    obtain rfl := Except.error.inj same
    exact silent _ names

/-- The service with the standard settings and the least limits. -/
def standard : Service where
  settings := .standard
  limits := .least
  registry := .standard .least
  workers := .single
  chunker := ⟨.standard, Chunk.tokens⟩
  model := ⟨"llama3.1", "http://localhost:11434", .float (.ofDecimal false 3 (-1)), some 123⟩

/-- The service starts with the standard settings. -/
theorem start_standard : start .least .standard = .ok standard := rfl

/-- A root that is missing is reported, as is the root of everything if it cannot be read. -/
theorem bad_root_missing :
    (¬Readable (.plain (.directory [])) "p" ∧ Followable (.plain (.directory [])) "p" ∧
      (∃ message, standard.analyzeProject (.plain (.directory [])) "p" = .ok (failure message)) ∧
      ∃ message, standard.chunkAnalysis (.plain (.directory [])) "p" none =
        .ok (failure message)) ∧
    ∃ message, standard.analyzeProject { plain (.directory []) with
      unreadable := fun _ _ => true } "/" = .ok (failure message) := by
  have unreadable : ¬Readable (.plain (.directory [])) "p" := by
    rintro ⟨place, entries, named, found, _⟩
    obtain rfl := Except.ok.inj named
    contradiction
  have followable : Followable (.plain (.directory [])) "p" := by
    refine ⟨⟨0, ["p"]⟩, rfl, ?_⟩
    rintro ⟨fault, blocks, stopped⟩
    cases stopped
    cases blocks
  obtain ⟨_, _, analyzed, cut, _⟩ := standard.bad_root_reported_iff unreadable
  refine ⟨⟨unreadable, followable, analyzed.mpr followable, (cut none).mpr (.inl followable)⟩, ?_⟩
  exact ⟨_, rfl⟩

/-- The home directory of an unknown user cannot be listed, and neither the analysis nor the tools
report that; a name of 256 letters is not reported either, nor is a directory behind one that may
not be passed through. -/
theorem bad_root_unreported :
    (¬Readable (.plain (.directory [])) "~nosuchuser" ∧
      standard.analysis (.plain (.directory [])) "~nosuchuser" = .error .unknownHome ∧
      standard.analyzeProject (.plain (.directory [])) "~nosuchuser" =
        .error (.root .unknownHome) ∧
      standard.chunkAnalysis (.plain (.directory [])) "~nosuchuser" none =
        .error (.root .unknownHome)) ∧
    (plain (.directory [])).files ignoredNames ⟨0, [letters 256]⟩ =
      .error (.access ⟨.nameTooLong, letters 256⟩) ∧
    standard.analyzeProject { plain (.directory [("p", .directory [])]) with
      impassable := fun place => place = ["p"] } "p/q" =
        .error (.root (.access ⟨.denied, "p/q"⟩)) := by
  have named : root (.plain (.directory [])) "~nosuchuser" = .error .unknownHome := rfl
  refine ⟨⟨?_, rfl, rfl, rfl⟩, ?_, rfl⟩
  · rintro ⟨place, _, other, _⟩
    cases named.symm.trans other
  · have unmarked (count : Nat) : '\x00' ∉ (letters count).toList := by simp [letters]
    refine files_longName ignoredNames rfl (unmarked 256) ?_
    rw [utf8ByteSize_letters]
    decide

end Service

end CodeAtlas
