import CodeAtlas.Proofs.FileSystem.Spelling
import Mathlib.Data.Set.List

/-!
# The order of listed files

Files are listed depth first: what is below an entry stands where the entry does among those of its
directory. So of two listed files that one comes first whose entry comes first in the directory at
which the ways to the two part. Where directories are in the order of their names, the files are in
the order of the names that lead to them: `files_depth_first`.
-/
namespace CodeAtlas

/-! ## Two items of a list -/

section

variable {α : Type} {items : List α} {first second : α}

/-- Of two different items of a list one comes first. -/
theorem sublist_or_sublist (before : first ∈ items) (after : second ∈ items)
    (different : first ≠ second) :
    [first, second].Sublist items ∨ [second, first].Sublist items := by
  obtain ⟨front, back, rfl⟩ := List.append_of_mem before
  rcases List.mem_append.mp after with earlier | later
  · have led : [second].Sublist front := List.singleton_sublist.mpr earlier
    have followed : [first].Sublist (first :: back) := List.singleton_sublist.mpr List.mem_cons_self
    exact .inr (led.append followed)
  · have followed : second ∈ back := (List.mem_cons.mp later).resolve_left different.symm
    have pair := (List.singleton_sublist.mpr followed).cons_cons first
    exact .inl (pair.trans (List.sublist_append_right front _))

/-- In a list without repetitions an item that comes before another does not come after it. -/
theorem not_sublist_swap (distinct : items.Nodup) (ahead : [first, second].Sublist items) :
    ¬[second, first].Sublist items := by
  intro behind
  induction items with
  | nil => cases ahead
  | cons item items ih =>
    obtain ⟨fresh, distinct⟩ := List.nodup_cons.mp distinct
    cases ahead with
    | cons _ ahead =>
      cases behind with
      | cons _ behind => exact ih distinct ahead behind
      | cons_cons _ behind => exact fresh (ahead.subset (by simp))
    | cons_cons _ ahead =>
      cases behind with
      | cons _ behind => exact fresh (behind.subset (by simp))
      | cons_cons _ behind => exact fresh (behind.subset (by simp))

/-- Two lists part at one place only. -/
theorem common_unique {common others firsts seconds lefts rights : List α} {left right : α}
    (different : first ≠ second) (apart : left ≠ right)
    (one : common ++ first :: firsts = others ++ left :: lefts)
    (two : common ++ second :: seconds = others ++ right :: rights) :
    common = others ∧ first = left ∧ second = right := by
  induction common generalizing others with
  | nil =>
    cases others with
    | nil =>
      obtain ⟨rfl, _⟩ := List.cons_eq_cons.mp one
      obtain ⟨rfl, _⟩ := List.cons_eq_cons.mp two
      exact ⟨rfl, rfl, rfl⟩
    | cons name others =>
      obtain ⟨rfl, _⟩ := List.cons_eq_cons.mp one
      obtain ⟨rfl, _⟩ := List.cons_eq_cons.mp two
      exact absurd rfl different
  | cons name common ih =>
    cases others with
    | nil =>
      obtain ⟨rfl, _⟩ := List.cons_eq_cons.mp one
      obtain ⟨rfl, _⟩ := List.cons_eq_cons.mp two
      exact absurd rfl apart
    | cons other others =>
      obtain ⟨rfl, onward⟩ := List.cons_eq_cons.mp one
      obtain ⟨_, further⟩ := List.cons_eq_cons.mp two
      obtain ⟨rfl, same⟩ := ih onward further
      exact ⟨rfl, same⟩

end

namespace FileSystem

variable (system : FileSystem) (ignored : List String)

/-! ## What comes first -/

/-- A listing that comes to an entry at a path reads the entries of the directory at a place. -/
def Reads (path : Path) (entry : Entry) (place : Path) (entries : List (String × Entry)) : Prop :=
  system.Visits ignored path entry place (.directory entries) ∧ system.Opens place

/-- Of two paths below an entry one comes first: the ways to them part in a directory that the
listing reads, and the entry on the way to the first is listed there before that on the way to the
second. -/
def Ahead (path : Path) (entry : Entry) (first second : Path) : Prop :=
  ∃ place entries name other names others,
    system.Reads ignored path entry place entries ∧
      name ≠ other ∧ [name, other].Sublist (entries.map (·.1)) ∧
      first = (place.child name).below names ∧ second = (place.child other).below others

variable {system ignored}

variable {path root first second : Path} {entry child : Entry} {name : String}
  {entries : List (String × Entry)} {files : List Path}

/-- What comes first below an entry of a directory comes first below the directory. -/
theorem Ahead.inside (opens : system.Opens path) (member : (name, child) ∈ entries)
    (kept : name ∉ ignored) (ahead : system.Ahead ignored (path.child name) child first second) :
    system.Ahead ignored path (.directory entries) first second := by
  obtain ⟨place, inner, one, other, names, others, ⟨visit, read⟩, parted⟩ := ahead
  have onward : system.Visits ignored path (.directory entries) place (.directory inner) :=
    .inside opens member kept visit
  exact ⟨place, inner, one, other, names, others, ⟨onward, read⟩, parted⟩

/-- What comes first among the entries of a directory does so behind another entry, too. -/
theorem Ahead.behind (opens : system.Opens path) {item : String × Entry}
    (ahead : system.Ahead ignored path (.directory entries) first second) :
    system.Ahead ignored path (.directory (item :: entries)) first second := by
  obtain ⟨place, inner, one, other, names, others, ⟨visit, read⟩, different, order, ways⟩ := ahead
  rcases visits_iff.mp visit with ⟨rfl, same⟩ | ⟨_, same, _, name, child, member, kept, onward⟩
  · cases same
    exact ⟨place, item :: entries, one, other, names, others, ⟨.here _ _, read⟩, different,
      order.cons item.1, ways⟩
  · cases same
    have later : (name, child) ∈ item :: entries := List.mem_cons_of_mem item member
    exact ⟨place, inner, one, other, names, others, ⟨.inside opens later kept onward, read⟩,
      different, order, ways⟩

/-- What is visited at the first entry of a directory comes before what is visited at another. -/
theorem Ahead.of_cons (opens : system.Opens path) {found other : Entry}
    (proper : (Entry.directory ((name, child) :: entries)).Proper)
    (here : system.Visits ignored (path.child name) child first found)
    (below : system.VisitsBelow ignored path entries second other) :
    system.Ahead ignored path (.directory ((name, child) :: entries)) first second := by
  cases proper with
  | directory distinct named each =>
    obtain ⟨next, sibling, member, _, onward⟩ := below
    obtain ⟨names, rfl, _⟩ := here.exists_names (each _ List.mem_cons_self)
    obtain ⟨others, rfl, _⟩ := onward.exists_names (each _ (List.mem_cons_of_mem _ member))
    have later : next ∈ entries.map (·.1) := List.mem_map_of_mem member
    have different : name ≠ next := by
      rintro rfl
      exact (List.nodup_cons.mp distinct).1 later
    exact ⟨path, _, name, next, names, others, ⟨.here _ _, opens⟩, different,
      (List.singleton_sublist.mpr later).cons_cons name, rfl, rfl⟩

mutual

/-- The files at an entry are listed in order. -/
theorem pairwise_filesAt (levels : Nat) (path : Path) (entry : Entry) {files : List Path}
    (proper : entry.Proper) (listed : system.filesAt ignored levels path entry = .ok files) :
    files.Pairwise (system.Ahead ignored path entry) := by
  rcases filesAt_eq_ok listed with ⟨_, rfl⟩ | ⟨fewer, entries, rfl, rfl, opens, inside⟩ |
    ⟨_, _, rfl⟩
  · exact List.pairwise_singleton _ path
  · exact pairwise_filesAmong fewer path entries opens proper inside
  · exact List.Pairwise.nil

/-- The files among the entries of a directory are listed in order. -/
theorem pairwise_filesAmong (levels : Nat) (directory : Path) (entries : List (String × Entry))
    {files : List Path} (opens : system.Opens directory)
    (proper : (Entry.directory entries).Proper)
    (listed : system.filesAmong ignored levels directory entries = .ok files) :
    files.Pairwise (system.Ahead ignored directory (.directory entries)) := by
  match entries with
  | [] =>
    rw [filesAmong] at listed
    obtain rfl := Except.ok.inj listed
    exact List.Pairwise.nil
  | (name, entry) :: entries =>
    by_cases dropped : name ∈ ignored
    · rw [filesAmong_cons_of_ignored entry entries dropped] at listed
      exact (pairwise_filesAmong levels directory entries opens proper.tail listed).imp
        (.behind opens)
    · obtain ⟨front, back, here, others, rfl⟩ := filesAmong_cons_eq_ok dropped listed
      have before := pairwise_filesAt levels (directory.child name) entry proper.head here
      have after := pairwise_filesAmong levels directory entries opens proper.tail others
      refine List.pairwise_append.mpr ⟨before.imp (.inside opens List.mem_cons_self dropped),
        after.imp (.behind opens), fun first inside second outside => ?_⟩
      -- The ways to a file at this entry and to one at another part in the directory itself.
      obtain ⟨found, visit, _⟩ := (mem_filesAt_iff _ _ _ here).mp inside
      obtain ⟨other, below, _⟩ := (mem_filesAmong_iff _ _ _ others).mp outside
      exact .of_cons opens proper visit below

end

/-! ## Names on the way -/

/-- Where one path comes before another, both are below one directory by names that part there. -/
theorem Ahead.exists_names (proper : entry.Proper)
    (ahead : system.Ahead ignored path entry first second) :
    ∃ common inner name other names others,
      system.Reads ignored path entry (path.below common) inner ∧
        entry.at? common = some (.directory inner) ∧
        name ≠ other ∧ [name, other].Sublist (inner.map (·.1)) ∧
        first = path.below (common ++ name :: names) ∧
        second = path.below (common ++ other :: others) := by
  obtain ⟨place, inner, name, other, names, others, ⟨visit, read⟩, different, order, rfl, rfl⟩ :=
    ahead
  obtain ⟨common, rfl, stands, _⟩ := visit.exists_names proper
  exact ⟨common, inner, name, other, names, others, ⟨visit, read⟩, stands, different, order,
    by simp [Path.below, Path.child], by simp [Path.below, Path.child]⟩

/-- In a proper tree no path comes before one that comes before it. -/
theorem Ahead.asymm (proper : entry.Proper)
    (ahead : system.Ahead ignored path entry first second) :
    ¬system.Ahead ignored path entry second first := by
  intro behind
  obtain ⟨common, inner, name, other, names, others, _, stands, different, order, one, two⟩ :=
    ahead.exists_names proper
  obtain ⟨common', inner', other', name', others', names', _, stands', different', order', two',
    one'⟩ := behind.exists_names proper
  obtain ⟨rfl, rfl, rfl⟩ := common_unique different different'.symm
    (Path.below_inj.mp (one.symm.trans one')) (Path.below_inj.mp (two.symm.trans two'))
  obtain ⟨rfl⟩ : inner = inner' := by
    have same := stands.symm.trans stands'
    cases same
    rfl
  have directory := (proper.at? stands).1
  cases directory with
  | directory distinct named each => exact not_sublist_swap distinct order order'

/-- Where directories are in the order of their names, what comes first has the first names. -/
theorem Ahead.names_lt (proper : entry.Proper)
    (sorted : ∀ place inner, system.Reads ignored path entry place inner →
      (inner.map (·.1)).Pairwise (· < ·))
    {names others : List String}
    (ahead : system.Ahead ignored path entry (path.below names) (path.below others)) :
    names < others := by
  obtain ⟨common, inner, name, other, front, back, reads, _, _, order, one, two⟩ :=
    ahead.exists_names proper
  obtain rfl := Path.below_inj.mp one
  obtain rfl := Path.below_inj.mp two
  have less : name < other :=
    List.pairwise_iff_forall_sublist.mp (sorted _ _ reads) order
  exact List.append_left_lt (List.cons_lt_cons_iff.mpr (.inl less))

/-! ## The whole listing -/

/-- Files are listed depth first: of two listed files one comes before the other exactly if, where
the ways to them part, its entry does. In particular, where all directories that are read are in the
order of their names, the files are in the strict order of the names below the root. -/
theorem files_depth_first (proper : system.top.Proper)
    (listed : system.files ignored root = .ok files) :
    ∃ entries, system.entries root = .ok entries ∧
      (∀ first ∈ files, ∀ second ∈ files, [first, second].Sublist files ↔
        system.Ahead ignored root (.directory entries) first second) ∧
      ((∀ place inner, system.Reads ignored root (.directory entries) place inner →
          (inner.map (·.1)).Pairwise (· < ·)) →
        ∃ places : List (List String), files = places.map root.below ∧
          places.Pairwise (· < ·)) := by
  obtain ⟨entries, found, among⟩ := exists_entries_of_files listed
  have below := system.proper_of_entries proper found
  have ordered := pairwise_filesAmong _ root entries ⟨entries, found⟩ below among
  have distinct := nodup_filesAmong _ root entries below among
  refine ⟨entries, found, fun first before second after => ⟨fun order => ?_, fun ahead => ?_⟩,
    fun sorted => ?_⟩
  · exact List.pairwise_iff_forall_sublist.mp ordered order
  · have different : first ≠ second := by
      rintro rfl
      exact ahead.asymm below ahead
    rcases sublist_or_sublist before after different with order | order
    · exact order
    · exact absurd (List.pairwise_iff_forall_sublist.mp ordered order) (ahead.asymm below)
  · have named : ∀ file ∈ files, ∃ names, root.below names = file := by
      intro file member
      obtain ⟨_, visit, _⟩ := (mem_filesAmong_iff _ root entries among).mp member
      obtain ⟨names, same, _⟩ := visit.exists_comes below
      exact ⟨names, same.symm⟩
    have listing : files ∈ Set.range (List.map root.below) := by
      rw [Set.range_list_map]
      exact named
    obtain ⟨places, rfl⟩ := listing
    exact ⟨places, rfl, (List.pairwise_map.mp ordered).imp (Ahead.names_lt below sorted)⟩

/-- A directory beside files whose names begin with its own, in the order of names. -/
def nestedEntries : List (String × Entry) :=
  [("b", .directory [("c.ts", .file .empty)]), ("b-d.ts", .file .empty), ("b.ts", .file .empty)]

/-- A directory with nested entries. -/
def nested : FileSystem := .plain (.directory [("p", .directory nestedEntries)])

/-- The file in the directory comes before those beside it, although a dash is before a slash. -/
theorem files_depth_first_nested :
    nested.top.Proper ∧
    nested.files ignoredNames ⟨0, ["p"]⟩ =
      .ok [⟨0, ["p", "b", "c.ts"]⟩, ⟨0, ["p", "b-d.ts"]⟩, ⟨0, ["p", "b.ts"]⟩] ∧
    nested.Ahead ignoredNames ⟨0, ["p"]⟩ (.directory nestedEntries) ⟨0, ["p", "b", "c.ts"]⟩
      ⟨0, ["p", "b-d.ts"]⟩ ∧
    (∀ place inner,
      nested.Reads ignoredNames ⟨0, ["p"]⟩ (.directory nestedEntries) place inner →
        (inner.map (·.1)).Pairwise (· < ·)) ∧
    ∃ places : List (List String),
      [⟨0, ["p", "b", "c.ts"]⟩, ⟨0, ["p", "b-d.ts"]⟩, ⟨0, ["p", "b.ts"]⟩] =
          places.map (Path.below ⟨0, ["p"]⟩) ∧
        places.Pairwise (· < ·) := by
  have inner : (Entry.directory [("c.ts", .file .empty)]).Proper :=
    .directory (by simp) (List.forall_mem_singleton.mpr (by decide))
      (List.forall_mem_singleton.mpr (.file .empty))
  have below : (Entry.directory nestedEntries).Proper := by
    refine .directory (by decide) (by decide) ?_
    simp only [nestedEntries, List.forall_mem_cons]
    exact ⟨inner, .file _, .file _, List.forall_mem_nil _⟩
  have proper : nested.top.Proper :=
    .directory (by simp) (List.forall_mem_singleton.mpr (by decide))
      (List.forall_mem_singleton.mpr below)
  have listed : nested.files ignoredNames ⟨0, ["p"]⟩ =
      .ok [⟨0, ["p", "b", "c.ts"]⟩, ⟨0, ["p", "b-d.ts"]⟩, ⟨0, ["p", "b.ts"]⟩] := rfl
  have sorted place inner
      (reads : nested.Reads ignoredNames ⟨0, ["p"]⟩ (.directory nestedEntries) place inner) :
      (inner.map (·.1)).Pairwise (· < ·) := by
    rcases visits_iff.mp reads.1 with ⟨_, same⟩ | ⟨_, same, _, name, child, member, _, onward⟩
    · cases same
      decide
    · cases same
      simp only [nestedEntries, List.mem_cons, List.not_mem_nil, or_false, Prod.mk.injEq] at member
      rcases member with ⟨rfl, rfl⟩ | ⟨rfl, rfl⟩ | ⟨rfl, rfl⟩
      · rcases visits_iff.mp onward with ⟨_, same⟩ | ⟨_, same, _, name, child, member, _, onward⟩
        · cases same
          decide
        · cases same
          obtain ⟨rfl, rfl⟩ := Prod.mk.inj (List.mem_singleton.mp member)
          cases onward
      · cases onward
      · cases onward
  obtain ⟨entries, found, order, ascending⟩ := files_depth_first proper listed
  obtain rfl : nestedEntries = entries := Except.ok.inj found
  refine ⟨proper, listed, ?_, sorted, ascending sorted⟩
  exact (order _ (by decide) _ (by decide)).mp (by decide)

end FileSystem

end CodeAtlas
