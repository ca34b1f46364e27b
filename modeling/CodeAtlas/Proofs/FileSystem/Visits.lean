import CodeAtlas.FileSystem.Listing
import CodeAtlas.Proofs.FileSystem.Location

/-!
# What a listing visits

A listing asks about every entry that it comes to whether it is a directory, and goes on below
those that are. `Visits` says which entries these are. The listing fails exactly if one of them
cannot be asked about, or stands on a level for which there is no room (`filesAmong_succeeds_iff`);
and a path cannot be asked about exactly if it is blocked (`answers_iff`): every other fault counts
as an answer.
-/
namespace CodeAtlas.FileSystem

/-! ## Answers -/

/-- A fault that blocks does not count as an answer. -/
theorem Fault.Blocks.meansAbsent {fault : Fault} (blocks : fault.Blocks) :
    fault.meansAbsent = false := by
  cases blocks <;> rfl

variable (system : FileSystem)

/-- It can be told whether a directory is at a path. -/
def Answers (path : Path) : Prop := ∃ answer, system.isDirectory path = .ok answer

/-- Whether a directory is at a path cannot be told exactly if the path is blocked. -/
theorem isDirectory_eq_error_iff {path : Path} {error : AccessError} :
    system.isDirectory path = .error error ↔
      ∃ fault, fault.Blocks ∧ system.locate true path = .error fault ∧
        error = ⟨fault, path.text⟩ := by
  constructor
  · intro failed
    unfold isDirectory ask at failed
    split at failed
    · contradiction
    · rename_i fault located
      split at failed
      · contradiction
      · rename_i present
        cases failed
        exact ⟨fault, (locate_error located).resolve_left present, located, rfl⟩
  · rintro ⟨fault, blocks, stopped, rfl⟩
    simp [isDirectory, ask, stopped, blocks.meansAbsent]

/-- Every path answers unless it is blocked. -/
theorem answers_iff (path : Path) : system.Answers path ↔ ¬system.Blocked path := by
  constructor
  · rintro ⟨answer, answered⟩ ⟨fault, blocks, stopped⟩
    rw [system.isDirectory_eq_error_iff.mpr ⟨fault, blocks, stopped, rfl⟩] at answered
    contradiction
  · intro followed
    cases answered : system.isDirectory path with
    | ok answer => exact ⟨answer, answered⟩
    | error error =>
      obtain ⟨fault, blocks, stopped, _⟩ := system.isDirectory_eq_error_iff.mp answered
      exact absurd ⟨fault, blocks, stopped⟩ followed

/-! ## Visits -/

/-- A directory is at a path and can be read. -/
def Opens (path : Path) : Prop := ∃ entries, system.entries path = .ok entries

/-- The entries of a directory are listed where it is, and it stands in the tree there. -/
theorem exists_place_of_entries {path : Path} {entries : List (String × Entry)}
    (listed : system.entries path = .ok entries) :
    ∃ place, system.locate true path = .ok (place, .directory entries) ∧
      system.top.at? place = some (.directory entries) := by
  unfold FileSystem.entries at listed
  split at listed
  · rename_i place found located
    split at listed
    · contradiction
    · cases listed
      exact ⟨place, located, at?_of_resolve (resolve_of_locate located).2⟩
  · contradiction
  · contradiction

/-- In a proper tree, a directory whose entries are listed is proper. -/
theorem proper_of_entries (proper : system.top.Proper) {path : Path}
    {entries : List (String × Entry)} (listed : system.entries path = .ok entries) :
    (Entry.directory entries).Proper := by
  obtain ⟨place, _, stands⟩ := system.exists_place_of_entries listed
  exact (proper.at? stands).1

/-- A directory that can be read is one for whoever asks. -/
theorem isDirectory_of_opens {path : Path} (opens : system.Opens path) :
    system.isDirectory path = .ok true := by
  obtain ⟨entries, listed⟩ := opens
  obtain ⟨place, located, _⟩ := system.exists_place_of_entries listed
  simp [isDirectory, ask, located, Entry.isDirectory]

variable (ignored : List String)

/-- A listing that comes to an entry at a path visits it, and below a directory that opens it
visits the entries whose names are not ignored. -/
inductive Visits : Path → Entry → Path → Entry → Prop where
  /-- It visits the entry itself. -/
  | here (path : Path) (entry : Entry) : Visits path entry path entry
  /-- It visits what it comes to from an entry of the directory. -/
  | inside {path place : Path} {entries : List (String × Entry)} {name : String}
      {child found : Entry} (opens : system.Opens path) (member : (name, child) ∈ entries)
      (kept : name ∉ ignored) (onward : Visits (path.child name) child place found) :
      Visits path (.directory entries) place found

/-- A listing of a directory visits an entry below it. -/
def VisitsBelow (directory : Path) (entries : List (String × Entry)) (place : Path)
    (found : Entry) : Prop :=
  ∃ name child, (name, child) ∈ entries ∧ name ∉ ignored ∧
    system.Visits ignored (directory.child name) child place found

variable {system ignored}

/-- A visit ends where it came to, or goes on below a directory that opens. -/
theorem visits_iff {path place : Path} {entry found : Entry} :
    system.Visits ignored path entry place found ↔
      (place = path ∧ found = entry) ∨
        ∃ entries, entry = .directory entries ∧ system.Opens path ∧
          system.VisitsBelow ignored path entries place found := by
  constructor
  · intro visit
    cases visit with
    | here => exact .inl ⟨rfl, rfl⟩
    | inside opens member kept onward =>
      exact .inr ⟨_, rfl, opens, _, _, member, kept, onward⟩
  · rintro (⟨rfl, rfl⟩ | ⟨entries, rfl, opens, name, child, member, kept, onward⟩)
    · exact .here place found
    · exact .inside opens member kept onward

/-- From an entry that does not open nothing else is visited. -/
theorem Visits.eq_of_closed {path place : Path} {entry found : Entry}
    (visit : system.Visits ignored path entry place found)
    (closed : ∀ entries, entry = .directory entries → ¬system.Opens path) : place = path := by
  rcases visits_iff.mp visit with ⟨same, _⟩ | ⟨entries, same, opens, _⟩
  · exact same
  · exact absurd opens (closed entries same)

/-- Below no entries nothing is visited. -/
theorem not_visitsBelow_nil {directory place : Path} {found : Entry} :
    ¬system.VisitsBelow ignored directory [] place found := by
  rintro ⟨name, child, member, _⟩
  contradiction

/-- A visit below entries comes from the first of them or from the others. -/
theorem visitsBelow_cons {directory place : Path} {name : String} {entry found : Entry}
    {entries : List (String × Entry)} :
    system.VisitsBelow ignored directory ((name, entry) :: entries) place found ↔
      (name ∉ ignored ∧ system.Visits ignored (directory.child name) entry place found) ∨
        system.VisitsBelow ignored directory entries place found := by
  constructor
  · rintro ⟨other, child, member, kept, onward⟩
    rcases List.mem_cons.mp member with same | later
    · cases same
      exact .inl ⟨kept, onward⟩
    · exact .inr ⟨other, child, later, kept, onward⟩
  · rintro (⟨kept, onward⟩ | ⟨other, child, later, kept, onward⟩)
    · exact ⟨name, entry, List.mem_cons_self, kept, onward⟩
    · exact ⟨other, child, List.mem_cons_of_mem _ later, kept, onward⟩

/-! ## Listings -/

/-- A path at which a listing stops that has room below a level: it cannot be asked about, or stands
too deep. -/
inductive Stops (system : FileSystem) (level : Nat) (place : Path) : RootError → Prop where
  /-- It cannot be told whether a directory is there. -/
  | access {cause : AccessError} (failed : system.isDirectory place = .error cause) :
    Stops system level place (.access cause)
  /-- There is no room for its level. -/
  | tooDeep (deep : level ≤ place.names.length) : Stops system level place .tooDeep

/-- A path that a listing gets past that has room below a level. -/
def Passed (system : FileSystem) (level : Nat) (place : Path) : Prop :=
  place.names.length < level ∧ system.Answers place

/-- A listing does not stop at a path that it gets past. -/
theorem Stops.not_passed {level : Nat} {place : Path} {error : RootError}
    (stops : system.Stops level place error) : ¬system.Passed level place := by
  rintro ⟨shallow, answer, answered⟩
  cases stops with
  | access failed =>
    rw [failed] at answered
    contradiction
  | tooDeep deep => omega

variable {levels : Nat}

/-- An entry that cannot be asked about makes its listing fail. -/
theorem filesAt_of_error {path : Path} {error : AccessError} (entry : Entry)
    (failed : system.isDirectory path = .error error) :
    system.filesAt ignored (levels + 1) path entry = .error (.access error) := by
  rw [filesAt.eq_def, failed]

/-- An entry that is no directory is listed itself. -/
theorem filesAt_of_file {path : Path} (entry : Entry) (file : system.isDirectory path = .ok false) :
    system.filesAt ignored (levels + 1) path entry = .ok [path] := by
  rw [filesAt.eq_def, file]

/-- A directory that opens is listed as its entries are. -/
theorem filesAt_of_opens {path : Path} (entries : List (String × Entry))
    (opens : system.Opens path) :
    system.filesAt ignored (levels + 1) path (.directory entries) =
      system.filesAmong ignored levels path entries := by
  rw [filesAt.eq_def, system.isDirectory_of_opens opens]
  obtain ⟨found, listed⟩ := opens
  simp [listed]

/-- Nothing is listed at a directory that does not open, or at a link to a directory. -/
theorem filesAt_of_closed {path : Path} {entry : Entry}
    (directory : system.isDirectory path = .ok true)
    (closed : ∀ entries, entry = .directory entries → ¬system.Opens path) :
    system.filesAt ignored (levels + 1) path entry = .ok [] := by
  rw [filesAt.eq_def, directory]
  cases entry with
  | file content => rfl
  | link target => rfl
  | directory entries =>
    cases listed : system.entries path with
    | ok found => exact absurd ⟨found, listed⟩ (closed entries rfl)
    | error cause => rfl

/-- Entries of ignored names are left out. -/
theorem filesAmong_cons_of_ignored {directory : Path} {name : String} (entry : Entry)
    (entries : List (String × Entry)) (dropped : name ∈ ignored) :
    system.filesAmong ignored levels directory ((name, entry) :: entries) =
      system.filesAmong ignored levels directory entries := by
  simp [filesAmong, dropped]

/-- The files at a first entry that is not ignored come before those at the others. -/
theorem filesAmong_cons {directory : Path} {name : String} (entry : Entry)
    (entries : List (String × Entry)) (kept : name ∉ ignored) :
    system.filesAmong ignored levels directory ((name, entry) :: entries) = do
      let first ← system.filesAt ignored levels (directory.child name) entry
      let others ← system.filesAmong ignored levels directory entries
      return first ++ others := by
  rw [filesAmong]
  cases system.filesAt ignored levels (directory.child name) entry with
  | error error => simp [kept]; rfl
  | ok first => cases system.filesAmong ignored levels directory entries <;> simp [kept] <;> rfl

/-- An entry of a directory stands one level deeper. -/
theorem length_child (directory : Path) (name : String) :
    (directory.child name).names.length = directory.names.length + 1 := by
  simp [Path.child]

mutual

/-- If an entry is listed, the listing gets past every visited path. -/
theorem passed_of_filesAt (levels : Nat) (path : Path) (entry : Entry) {files : List Path}
    (listed : system.filesAt ignored levels path entry = .ok files) {place : Path} {found : Entry}
    (visit : system.Visits ignored path entry place found) :
    system.Passed (path.names.length + levels) place := by
  match levels with
  | 0 => rw [filesAt.eq_def] at listed; contradiction
  | levels + 1 =>
    rcases visits_iff.mp visit with ⟨rfl, rfl⟩ | ⟨entries, rfl, opens, below⟩
    · refine ⟨by omega, ?_⟩
      cases answered : system.isDirectory place with
      | error error =>
        rw [filesAt_of_error found answered] at listed
        contradiction
      | ok answer => exact ⟨answer, answered⟩
    · rw [filesAt_of_opens entries opens] at listed
      have passed := passed_of_filesAmong levels path entries listed below
      rwa [Nat.add_assoc] at passed

/-- If a directory is listed, the listing gets past every path visited below it. -/
theorem passed_of_filesAmong (levels : Nat) (directory : Path) (entries : List (String × Entry))
    {files : List Path} (listed : system.filesAmong ignored levels directory entries = .ok files)
    {place : Path} {found : Entry}
    (visit : system.VisitsBelow ignored directory entries place found) :
    system.Passed (directory.names.length + levels + 1) place := by
  match entries with
  | [] => exact absurd visit not_visitsBelow_nil
  | (name, entry) :: entries =>
    by_cases dropped : name ∈ ignored
    · rw [filesAmong_cons_of_ignored entry entries dropped] at listed
      rcases visitsBelow_cons.mp visit with ⟨kept, _⟩ | later
      · contradiction
      · exact passed_of_filesAmong levels directory entries listed later
    · rw [filesAmong_cons entry entries dropped] at listed
      cases first : system.filesAt ignored levels (directory.child name) entry with
      | error error =>
        rw [first] at listed
        contradiction
      | ok front =>
        cases others : system.filesAmong ignored levels directory entries with
        | error error =>
          rw [first, others] at listed
          contradiction
        | ok back =>
          rcases visitsBelow_cons.mp visit with ⟨_, here⟩ | later
          · have passed := passed_of_filesAt levels (directory.child name) entry first here
            rwa [length_child, Nat.add_right_comm] at passed
          · exact passed_of_filesAmong levels directory entries others later

end

mutual

/-- If an entry cannot be listed, the listing stops at a visited path. -/
theorem stops_of_filesAt (levels : Nat) (path : Path) (entry : Entry) {error : RootError}
    (failed : system.filesAt ignored levels path entry = .error error) :
    ∃ place found, system.Visits ignored path entry place found ∧
      system.Stops (path.names.length + levels) place error := by
  match levels with
  | 0 =>
    rw [filesAt.eq_def] at failed
    cases failed
    exact ⟨path, entry, .here path entry, .tooDeep (Nat.le_refl _)⟩
  | levels + 1 =>
    cases answered : system.isDirectory path with
    | error cause =>
      rw [filesAt_of_error entry answered] at failed
      cases failed
      exact ⟨path, entry, .here path entry, .access answered⟩
    | ok answer =>
      by_cases goes : ∃ entries, entry = .directory entries ∧ system.Opens path
      · obtain ⟨entries, rfl, opens⟩ := goes
        rw [filesAt_of_opens entries opens] at failed
        obtain ⟨place, found, below, stops⟩ := stops_of_filesAmong levels path entries failed
        exact ⟨place, found, visits_iff.mpr (.inr ⟨entries, rfl, opens, below⟩), stops⟩
      · cases answer with
        | false =>
          rw [filesAt_of_file entry answered] at failed
          contradiction
        | true =>
          have closed entries (same : entry = .directory entries) : ¬system.Opens path :=
            fun opens => goes ⟨entries, same, opens⟩
          rw [filesAt_of_closed answered closed] at failed
          contradiction

/-- If a directory cannot be listed, the listing stops at a path visited below it. -/
theorem stops_of_filesAmong (levels : Nat) (directory : Path) (entries : List (String × Entry))
    {error : RootError}
    (failed : system.filesAmong ignored levels directory entries = .error error) :
    ∃ place found, system.VisitsBelow ignored directory entries place found ∧
      system.Stops (directory.names.length + levels + 1) place error := by
  match entries with
  | [] =>
    rw [filesAmong] at failed
    contradiction
  | (name, entry) :: entries =>
    by_cases dropped : name ∈ ignored
    · rw [filesAmong_cons_of_ignored entry entries dropped] at failed
      obtain ⟨place, found, later, stops⟩ := stops_of_filesAmong levels directory entries failed
      exact ⟨place, found, visitsBelow_cons.mpr (.inr later), stops⟩
    · rw [filesAmong_cons entry entries dropped] at failed
      cases first : system.filesAt ignored levels (directory.child name) entry with
      | error cause =>
        rw [first] at failed
        cases failed
        obtain ⟨place, found, here, stops⟩ :=
          stops_of_filesAt levels (directory.child name) entry first
        rw [length_child, Nat.add_right_comm] at stops
        exact ⟨place, found, visitsBelow_cons.mpr (.inl ⟨dropped, here⟩), stops⟩
      | ok front =>
        cases others : system.filesAmong ignored levels directory entries with
        | error cause =>
          rw [first, others] at failed
          cases failed
          obtain ⟨place, found, later, stops⟩ :=
            stops_of_filesAmong levels directory entries others
          exact ⟨place, found, visitsBelow_cons.mpr (.inr later), stops⟩
        | ok back =>
          rw [first, others] at failed
          contradiction

end

/-- Listing a directory succeeds exactly if it gets past every path visited below it. -/
theorem filesAmong_succeeds_iff (directory : Path) (entries : List (String × Entry)) :
    (∃ files, system.filesAmong ignored levels directory entries = .ok files) ↔
      ∀ place found, system.VisitsBelow ignored directory entries place found →
        system.Passed (directory.names.length + levels + 1) place := by
  constructor
  · rintro ⟨files, listed⟩ place found visit
    exact passed_of_filesAmong levels directory entries listed visit
  · intro passes
    cases result : system.filesAmong ignored levels directory entries with
    | ok files => exact ⟨files, rfl⟩
    | error error =>
      obtain ⟨place, found, visit, stops⟩ := stops_of_filesAmong levels directory entries result
      exact absurd (passes place found visit) stops.not_passed

end CodeAtlas.FileSystem
