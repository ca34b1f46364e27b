import CodeAtlas.Project
import CodeAtlas.Proofs.FileSystem.Path
import CodeAtlas.Proofs.FileSystem.Visits
import CodeAtlas.Proofs.Project.Merging

/-!
# Failures below the root

Once a project can be listed its analysis succeeds, whatever becomes of its files. Below a root that
is a readable directory, only a path that is blocked makes the listing fail, or one that is nested
too deeply: `analyze_succeeds_iff`.
-/
namespace CodeAtlas

namespace FileSystem

variable {system : FileSystem}

/-- Below a directory that can be read, the files are those among its entries. -/
theorem files_eq {root : Path} {entries : List (String × Entry)} (ignored : List String)
    (directory : system.isDirectory root = .ok true)
    (readable : system.entries root = .ok entries) :
    system.files ignored root = system.filesAmong ignored system.levels root entries := by
  have there : system.exists? root = .ok true := by
    unfold isDirectory ask at directory
    unfold exists? ask
    split at directory
    · rfl
    · split at directory <;> contradiction
  simp only [files, there, directory, readable]

end FileSystem

namespace Project

open FileSystem

/-- The analysis of a project succeeds exactly if the project can be listed. -/
theorem analyze_ok_iff {registry : Registry} {system : FileSystem} {directory : String} :
    (∃ analysis, (analyze registry system directory).1 = .ok analysis) ↔
      ∃ files, listing system directory = .ok files := by
  unfold analyze listing
  split <;> simp_all

/-- The analysis of a project fails with the error of its listing. -/
theorem analyze_error_iff {registry : Registry} {system : FileSystem} {directory : String}
    {error : RootError} :
    (analyze registry system directory).1 = .error error ↔
      listing system directory = .error error := by
  unfold analyze listing
  split <;> simp_all

variable {system : FileSystem} {directory : String} {place : Path}
  {entries : List (String × Entry)}

/-- The listing of a directory that can be read is that of its entries. -/
theorem listing_eq (named : root system directory = .ok place)
    (found : system.isDirectory place = .ok true) (readable : system.entries place = .ok entries) :
    listing system directory =
      system.filesAmong ignoredNames system.levels place entries := by
  rw [listing, named, ← files_eq ignoredNames found readable]
  rfl

/-- In a directory that can be read, the analysis succeeds exactly if no path visited below it is
blocked, nor nested more deeply than can be listed; otherwise it fails at such a path. -/
theorem analyze_succeeds_iff (limits : Limits) (named : root system directory = .ok place)
    (found : system.isDirectory place = .ok true) (readable : system.entries place = .ok entries) :
    ((∃ analysis, (analyze (.standard limits) system directory).1 = .ok analysis) ↔
      ∀ path entry, system.VisitsBelow ignoredNames place entries path entry →
        ¬system.Blocked path ∧ path.names.length ≤ place.names.length + system.levels) ∧
    ∀ error, (analyze (.standard limits) system directory).1 = .error error →
      ∃ path entry, system.VisitsBelow ignoredNames place entries path entry ∧
        ((∃ fault, fault.Blocks ∧ system.locate true path = .error fault ∧
            error = .access ⟨fault, path.text⟩) ∨
          place.names.length + system.levels < path.names.length ∧ error = .tooDeep) := by
  have listed := listing_eq named found readable
  constructor
  · rw [analyze_ok_iff, listed, filesAmong_succeeds_iff]
    refine forall_congr' fun path => forall_congr' fun entry => imp_congr_right fun _ => ?_
    rw [Passed, answers_iff, and_comm, Nat.lt_succ_iff]
  · intro error failed
    rw [analyze_error_iff, listed] at failed
    obtain ⟨path, entry, visit, stops⟩ := stops_of_filesAmong _ place entries failed
    refine ⟨path, entry, visit, ?_⟩
    cases stops with
    | access cause =>
      obtain ⟨fault, blocks, stopped, rfl⟩ := system.isDirectory_eq_error_iff.mp cause
      exact .inl ⟨fault, blocks, stopped, rfl⟩
    | tooDeep deep => exact .inr ⟨deep, rfl⟩

/-- A directory with a link to itself, a link to nothing, a link to the directory it is in, a
directory that cannot be read, and a link to the root of everything. -/
def oddEntries : FileSystem :=
  { plain (.directory [("p", .directory
      [("a", .link "a"), ("b", .link "nothing"), ("c", .link "../p"),
        ("d", .directory [("e.ts", .file .empty)]), ("f", .link "/")])]) with
    unreadable := fun _ place => place = ["p", "d"] }

/-- None of the odd entries makes the analysis fail. -/
theorem analyze_oddEntries :
    root oddEntries "p" = .ok ⟨0, ["p"]⟩ ∧ oddEntries.isDirectory ⟨0, ["p"]⟩ = .ok true ∧
      ∃ analysis, (analyze (.standard .least) oddEntries "p").1 = .ok analysis := by
  have named : root oddEntries "p" = .ok ⟨0, ["p"]⟩ := rfl
  have found : oddEntries.isDirectory ⟨0, ["p"]⟩ = .ok true := rfl
  have readable : oddEntries.entries ⟨0, ["p"]⟩ = .ok
      [("a", .link "a"), ("b", .link "nothing"), ("c", .link "../p"),
        ("d", .directory [("e.ts", .file .empty)]), ("f", .link "/")] := rfl
  refine ⟨named, found, (analyze_succeeds_iff .least named found readable).1.mpr ?_⟩
  rintro path entry ⟨name, child, member, _, visit⟩
  simp only [List.mem_cons, List.not_mem_nil, or_false, Prod.mk.injEq] at member
  rcases member with ⟨rfl, rfl⟩ | ⟨rfl, rfl⟩ | ⟨rfl, rfl⟩ | ⟨rfl, rfl⟩ | ⟨rfl, rfl⟩
  · rw [visit.eq_of_closed nofun, ← answers_iff]
    exact ⟨⟨false, rfl⟩, by decide⟩
  · rw [visit.eq_of_closed nofun, ← answers_iff]
    exact ⟨⟨false, rfl⟩, by decide⟩
  · rw [visit.eq_of_closed nofun, ← answers_iff]
    exact ⟨⟨true, rfl⟩, by decide⟩
  -- Only this entry could be entered, and it cannot be read.
  · have closed : ¬oddEntries.Opens (Path.child ⟨0, ["p"]⟩ "d") := by
      rintro ⟨entries, listed⟩
      cases listed
    rw [visit.eq_of_closed fun _ _ => closed, ← answers_iff]
    exact ⟨⟨true, rfl⟩, by decide⟩
  · rw [visit.eq_of_closed nofun, ← answers_iff]
    exact ⟨⟨true, rfl⟩, by decide⟩

/-- A directory with one link. -/
def oneLink (target : String) : FileSystem :=
  .plain (.directory [("p", .directory [("b", .link target)])])

/-- A link to a name that is too long cannot be followed. -/
theorem locate_oneLink {target : String} (plain : '/' ∉ target.toList)
    (long : nameLimit < target.utf8ByteSize) :
    (oneLink target).locate true ⟨0, ["p", "b"]⟩ = .error .nameTooLong := by
  have occupied : target ≠ "" := by
    rintro rfl
    contradiction
  have self : target ≠ "." := by
    rintro rfl
    contradiction
  have up : target ≠ ".." := by
    rintro rfl
    contradiction
  have names : targetNames target = [target] := by
    have last : target.toList.getLast? ≠ some '/' := fun slash =>
      plain (List.mem_of_getLast? slash)
    simp [targetNames, Path.splitFrom_of_no_slash [] plain, occupied, last]
  have base : targetBase ["p"] target = ["p"] := by
    refine if_neg fun slash => plain ?_
    exact List.mem_of_mem_head? (Option.mem_def.mpr slash)
  have reach : (oneLink target).advance true [] ["p", "b"] = .ok (.atLink ["p"] target []) := rfl
  have stop : (oneLink target).advance true ["p"] [target] = .error .nameTooLong := by
    have passes : ¬(oneLink target).impassable ["p"] = true := Bool.false_ne_true
    rw [advance, if_neg passes, if_neg self, if_neg up, if_pos long]
  have start : (oneLink target).locate true ⟨0, ["p", "b"]⟩ =
      (oneLink target).resolve true linkLimit [] ["p", "b"] := rfl
  rw [start, linkLimit, resolve, reach]
  by_cases whole : pathLimit < target.utf8ByteSize
  · exact if_pos whole
  · dsimp only
    rw [if_neg whole, if_neg occupied, names, base, List.append_nil, resolve, stop]

/-- A link to a name that is too long makes the analysis fail. -/
theorem analyze_oneLink_fails {target : String} (plain : '/' ∉ target.toList)
    (long : nameLimit < target.utf8ByteSize) :
    ¬∃ analysis, (analyze (.standard .least) (oneLink target) "p").1 = .ok analysis := by
  have visit : (oneLink target).VisitsBelow ignoredNames ⟨0, ["p"]⟩ [("b", .link target)]
      ⟨0, ["p", "b"]⟩ (.link target) :=
    ⟨"b", .link target, List.mem_singleton_self _, by decide, .here _ _⟩
  have listed : listing (oneLink target) "p" = (oneLink target).filesAmong ignoredNames
      (oneLink target).levels ⟨0, ["p"]⟩ [("b", .link target)] :=
    listing_eq rfl rfl rfl
  rw [analyze_ok_iff, listed]
  rintro ⟨files, succeeded⟩
  have passed := passed_of_filesAmong _ _ _ succeeded visit
  exact (answers_iff _ _).mp passed.2 ⟨_, .nameTooLong, locate_oneLink plain long⟩

/-- A name of so many letters. -/
def letters (count : Nat) : String := String.ofList (List.replicate count 'x')

/-- No letter is a slash. -/
theorem letters_plain (count : Nat) : '/' ∉ (letters count).toList := by
  simp [letters]

/-- A letter takes one byte. -/
theorem utf8ByteSize_letters (count : Nat) : (letters count).utf8ByteSize = count := by
  induction count with
  | zero => rfl
  | succ count ih =>
    rw [letters, List.replicate_succ, String.ofList_cons, String.utf8ByteSize_append, ← letters, ih]
    exact Nat.add_comm 1 count

/-- A link to a name of 256 letters makes the analysis of a directory that can be read fail. -/
theorem analyze_longName_fails :
    root (oneLink (letters 256)) "p" = .ok ⟨0, ["p"]⟩ ∧
      (oneLink (letters 256)).isDirectory ⟨0, ["p"]⟩ = .ok true ∧
      (oneLink (letters 256)).entries ⟨0, ["p"]⟩ = .ok [("b", .link (letters 256))] ∧
      ¬∃ analysis, (analyze (.standard .least) (oneLink (letters 256)) "p").1 = .ok analysis := by
  refine ⟨rfl, rfl, rfl, analyze_oneLink_fails ?_ ?_⟩
  · exact letters_plain 256
  · rw [utf8ByteSize_letters]
    decide

end Project

end CodeAtlas
