import CodeAtlas.Proofs.FileSystem.Exactness
import Mathlib.Data.List.Nodup

/-!
# How listed files are spelled

The text of a path tells the names that it leads down by, as no name has a slash. So the files of a
listing are spelled differently, and a file is known by the text of its path: `nodup_texts`.
-/
namespace CodeAtlas

namespace Path

/-! ## Texts of names -/

/-- Characters are split at the first slash. -/
theorem splitFrom_slash {chars : List Char} (current rest : List Char) (plain : '/' ∉ chars) :
    splitFrom current (chars ++ '/' :: rest) =
      String.ofList (current.reverse ++ chars) :: splitFrom [] rest := by
  induction chars generalizing current with
  | nil => simp [splitFrom]
  | cons char chars ih =>
    obtain ⟨other, plain⟩ := not_or.mp (List.mem_cons.not.mp plain)
    rw [List.cons_append, splitFrom, if_neg (Ne.symm other), ih _ plain]
    simp

/-- Names without slashes are what their text is split into. -/
theorem splitFrom_intercalate {names : List String} (occupied : names ≠ [])
    (plain : ∀ name ∈ names, '/' ∉ name.toList) :
    splitFrom [] ("/".intercalate names).toList = names := by
  induction names with
  | nil => contradiction
  | cons name names ih =>
    obtain ⟨here, others⟩ := List.forall_mem_cons.mp plain
    cases names with
    | nil => simp [splitFrom_of_no_slash [] here]
    | cons next names =>
      have text : ("/".intercalate (name :: next :: names)).toList =
          name.toList ++ '/' :: ("/".intercalate (next :: names)).toList := by
        rw [String.intercalate_cons_cons, String.toList_append, String.toList_append,
          List.append_assoc]
        rfl
      rw [text, splitFrom_slash [] _ here, ih (List.cons_ne_nil next names) others]
      simp

/-- The text of a path below another ends with the text of the names. -/
theorem exists_text_below (path : Path) : ∃ front, ∀ names, names ≠ [] →
    (path.below names).text = front ++ "/".intercalate names := by
  obtain ⟨root, above⟩ := path
  have whole (names : List String) (occupied : names ≠ []) :
      (below ⟨root, above⟩ names).text =
        String.ofList (List.replicate root '/') ++ "/".intercalate (above ++ names) := by
    simp [text, below, occupied]
  by_cases bare : above = []
  · exact ⟨_, fun names occupied => by rw [whole names occupied, bare, List.nil_append]⟩
  · refine ⟨String.ofList (List.replicate root '/') ++ ("/".intercalate above ++ "/"),
      fun names occupied => ?_⟩
    rw [whole names occupied, String.intercalate_append_of_ne_nil bare occupied]
    simp only [String.append_assoc]

/-- Different names without slashes lead to paths with different texts. -/
theorem text_below_inj {path : Path} {names others : List String} (occupied : names ≠ [])
    (plain : ∀ name ∈ names, '/' ∉ name.toList) (further : others ≠ [])
    (simple : ∀ name ∈ others, '/' ∉ name.toList)
    (same : (path.below names).text = (path.below others).text) : names = others := by
  obtain ⟨front, texts⟩ := path.exists_text_below
  rw [texts names occupied, texts others further, ← String.toList_inj, String.toList_append,
    String.toList_append, List.append_cancel_left_eq, String.toList_inj] at same
  rw [← splitFrom_intercalate occupied plain, same, splitFrom_intercalate further simple]

end Path

namespace FileSystem

/-! ## Trees without slashes -/

namespace Entry

/-- No name in a tree has a slash. -/
def Slashless (entry : Entry) : Prop :=
  ∀ names found, entry.at? names = some found → ∀ name ∈ names, '/' ∉ name.toList

/-- A directory has no slashes in its names if its entries have none. -/
theorem Slashless.directory {entries : List (String × Entry)}
    (named : ∀ item ∈ entries, '/' ∉ item.1.toList) (each : ∀ item ∈ entries, item.2.Slashless) :
    (Entry.directory entries).Slashless := by
  intro names found stands
  cases names with
  | nil => exact List.forall_mem_nil _
  | cons name names =>
    rw [at?, Option.bind_eq_some_iff] at stands
    obtain ⟨child, first, later⟩ := stands
    obtain ⟨_, same, member⟩ := exists_mem_of_child? first
    cases same
    exact List.forall_mem_cons.mpr ⟨named _ member, each _ member names found later⟩

/-- A file has no names. -/
theorem Slashless.file (content : ByteArray) : (Entry.file content).Slashless := by
  intro names found stands
  cases names with
  | nil => exact List.forall_mem_nil _
  | cons name names => contradiction

end Entry

variable {system : FileSystem} {ignored : List String} {root : Path} {files : List Path}

/-- Files are listed among the entries of the directory. -/
theorem exists_entries_of_files (listed : system.files ignored root = .ok files) :
    ∃ entries, system.entries root = .ok entries ∧
      system.filesAmong ignored system.levels root entries = .ok files := by
  unfold FileSystem.files at listed
  split at listed
  · contradiction
  · contradiction
  · split at listed
    · contradiction
    · contradiction
    · split at listed
      · contradiction
      · rename_i entries found
        exact ⟨entries, found, listed⟩

/-- In a proper tree without slashes in its names the listed files have different texts. -/
theorem nodup_texts (proper : system.top.Proper) (slashless : system.top.Slashless)
    (listed : system.files ignored root = .ok files) : (files.map Path.text).Nodup := by
  obtain ⟨entries, found, among⟩ := exists_entries_of_files listed
  obtain ⟨location, _, stands⟩ := system.exists_place_of_entries found
  have below := system.proper_of_entries proper found
  have spelled : ∀ file ∈ files, ∃ names, file = root.below names ∧ names ≠ [] ∧
      ∀ name ∈ names, '/' ∉ name.toList := by
    intro file member
    obtain ⟨entry, visit, _⟩ := (mem_filesAmong_iff _ root entries among).mp member
    obtain ⟨names, rfl, comes⟩ := visit.exists_comes below
    have whole : system.top.at? (location ++ names) = some entry := by
      rw [Entry.at?_append, stands]
      exact comes.found
    exact ⟨names, rfl, comes.further, fun name inside =>
      slashless _ _ whole name (List.mem_append_right _ inside)⟩
  refine List.Nodup.map_on ?_ (nodup_filesAmong _ root entries below among)
  intro file member other also same
  obtain ⟨names, rfl, occupied, plain⟩ := spelled file member
  obtain ⟨others, rfl, further, simple⟩ := spelled other also
  rw [Path.text_below_inj occupied plain further simple same]

end FileSystem

end CodeAtlas
