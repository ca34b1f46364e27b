import CodeAtlas.Proofs.Chunk.Splitting
import CodeAtlas.Project

/-!
# Chunks of a growing analysis

A group is closed before the next one is begun and never opened again. So when items are appended to
a list, its groups stay as they are but for the last, which may take in more: `groupFrom_append`
tells where grouping stands between the two parts, and `chunk_append_stable` what it means for
packings and for the chunks of a project in which more files are listed.
-/
namespace CodeAtlas.Chunk

variable {α β : Type}

/-- Groups go on as other groups: all but the last are the first of the others, and the next of the
others begins with the last. -/
def GoesOn (groups others : List (List α)) : Prop :=
  ∃ closed opened more later,
    groups = closed ++ [opened] ∧ others = closed ++ (opened ++ more) :: later

/-- Groups whose items are replaced one by one go on as the others do. -/
theorem GoesOn.flatMap {groups others : List (List α)} (goes : GoesOn groups others)
    (replace : α → List β) :
    GoesOn (groups.map (·.flatMap replace)) (others.map (·.flatMap replace)) := by
  obtain ⟨closed, opened, more, later, rfl, rfl⟩ := goes
  refine ⟨closed.map (·.flatMap replace), opened.flatMap replace, more.flatMap replace,
    later.map (·.flatMap replace), ?_, ?_⟩
  · rw [List.map_append, List.map_singleton]
  · rw [List.map_append, List.map_cons, List.flatMap_append]

section Grouping

variable (limit : Nat) (weigh : α → Nat)

/-- Between two parts of a list some groups are closed and one is open, which does not depend on the
second part. -/
theorem groupFrom_append (opened items : List α) :
    ∃ closed current, (opened ++ items ≠ [] → current ≠ []) ∧ ∀ later,
      groupFrom limit weigh opened (total weigh opened) (items ++ later) =
        closed ++ groupFrom limit weigh current (total weigh current) later := by
  induction items generalizing opened with
  | nil => exact ⟨[], opened, by simp, fun later => rfl⟩
  | cons item items ih =>
    by_cases full : (limit < total weigh opened + weigh item && !opened.isEmpty) = true
    · obtain ⟨closed, current, occupied, reads⟩ := ih [item]
      refine ⟨opened :: closed, current, fun _ => occupied (List.cons_ne_nil _ _), fun later => ?_⟩
      have alone := reads later
      rw [total, total, Nat.add_zero] at alone
      rw [List.cons_append, groupFrom, if_pos full, alone, List.cons_append]
    · obtain ⟨closed, current, occupied, reads⟩ := ih (opened ++ [item])
      refine ⟨closed, current, fun _ => occupied (by simp), fun later => ?_⟩
      have joined := reads later
      rw [total_append, total, total, Nat.add_zero] at joined
      rw [List.cons_append, groupFrom, if_neg full, joined]

/-- The groups of a list go on as those of a longer list. -/
theorem group_goesOn {items : List α} (occupied : items ≠ []) (later : List α) :
    GoesOn (group limit weigh items) (group limit weigh (items ++ later)) := by
  obtain ⟨closed, current, opens, reads⟩ := groupFrom_append limit weigh [] items
  have open_ : current ≠ [] := opens (by simpa using occupied)
  obtain ⟨more, others, head⟩ :=
    groupFrom_head limit weigh current (total weigh current) later open_
  have short : group limit weigh items = closed ++ [current] := by
    have ended := reads []
    rw [List.append_nil] at ended
    refine ended.trans ?_
    rw [groupFrom, Packing.close, if_neg (by simpa using open_)]
  have long : group limit weigh (items ++ later) = closed ++ (current ++ more) :: others :=
    (reads later).trans (by rw [head])
  exact ⟨closed, current, more, others, short, long⟩

end Grouping

/-- Packed groups of a list go on as those of a longer list, wherever the items are that are too
heavy by themselves. -/
theorem Packing.Productive.pack_goesOn {packing : Packing α} (productive : packing.Productive)
    {items : List α} (occupied : items ≠ []) (later : List α) :
    GoesOn (packing.pack items) (packing.pack (items ++ later)) := by
  rw [productive.pack_eq_group, productive.pack_eq_group]
  exact (group_goesOn packing.limit packing.load occupied later).flatMap packing.records

/-- The group that is open goes on, even after an item that is too heavy and with one that closes
it at once. -/
example : (⟨3, id, fun _ => [0]⟩ : Packing Nat).pack [2, 2, 9] = [[2], [2, 0]] ∧
    (⟨3, id, fun _ => [0]⟩ : Packing Nat).pack [2, 2, 9, 9, 2] = [[2], [2, 0, 0], [2]] :=
  ⟨rfl, rfl⟩

end CodeAtlas.Chunk

namespace CodeAtlas

/-- Files that are listed after others add their entities behind those of the others. -/
theorem Project.joined_append (earlier later : List Project.Outcome) :
    joined (earlier ++ later) = joined earlier ++ joined later := by
  induction earlier with
  | nil => rfl
  | cons outcome earlier ih =>
    cases outcome with
    | found analysis =>
      rw [List.cons_append, joined, joined, ih]
      change Analysis.mk _ _ = Analysis.mk _ _
      simp
    | failed failure =>
      rw [List.cons_append, joined, joined, ih]

namespace Chunker

open Chunk

variable (chunker : Chunker) (budget : Budget)

/-- The groups of functions in chunks. -/
def functionGroups (chunks : List Analysis) : List (List Function) :=
  (chunks.filter (!·.functions.isEmpty)).map (·.functions)

/-- The groups of classes in chunks. -/
def classGroups (chunks : List Analysis) : List (List Class) :=
  (chunks.filter (!·.classes.isEmpty)).map (·.classes)

/-- The groups of functions in the chunks of an analysis are those of its packed functions. -/
theorem functionGroups_chunkWithin (analysis : Analysis) :
    functionGroups (chunker.chunkWithin budget analysis) =
      (chunker.functionPacking budget).pack analysis.functions := by
  rw [functionGroups, filter_functions_chunkWithin, List.map_map,
    (chunker.functionPacking_productive budget).pack_eq_group]
  rfl

/-- The groups of classes in the chunks of an analysis are those of its packed classes. -/
theorem classGroups_chunkWithin (analysis : Analysis) :
    classGroups (chunker.chunkWithin budget analysis) =
      (chunker.classPacking budget).pack analysis.classes := by
  rw [classGroups, filter_classes_chunkWithin, List.map_map,
    (chunker.classPacking_productive budget).pack_eq_group]
  rfl

/-- How the chunks of an analysis go on if entities are added behind its own. -/
structure Extends (analysis : Analysis) (chunks longer : List Analysis) : Prop where
  /-- The groups of functions go on, if there are functions. -/
  functions : analysis.functions ≠ [] → GoesOn (functionGroups chunks) (functionGroups longer)
  /-- The groups of classes go on, if there are classes. -/
  classes : analysis.classes ≠ [] → GoesOn (classGroups chunks) (classGroups longer)

/-- The chunks of an analysis are extended by those of a longer one. -/
theorem extends_chunkWithin (analysis added : Analysis) :
    Extends analysis (chunker.chunkWithin budget analysis)
      (chunker.chunkWithin budget (analysis ++ added)) where
  functions some := by
    rw [functionGroups_chunkWithin, functionGroups_chunkWithin]
    exact (chunker.functionPacking_productive budget).pack_goesOn some added.functions
  classes some := by
    rw [classGroups_chunkWithin, classGroups_chunkWithin]
    exact (chunker.classPacking_productive budget).pack_goesOn some added.classes

/-- Appending to a list leaves its packed groups as they are but for the last, which may go on. So
files that are listed after others leave the chunks of the others as they are but for the last of
each kind. -/
theorem pack_append_stable :
    (∀ functions later, functions ≠ [] →
      GoesOn ((chunker.functionPacking budget).pack functions)
        ((chunker.functionPacking budget).pack (functions ++ later))) ∧
    (∀ classes later, classes ≠ [] →
      GoesOn ((chunker.classPacking budget).pack classes)
        ((chunker.classPacking budget).pack (classes ++ later))) ∧
    ∀ earlier later : List Project.Outcome, ∃ chunks longer,
      chunker.Yields budget (Project.joined earlier) chunks ∧
      chunker.Yields budget (Project.joined (earlier ++ later)) longer ∧
      Extends (Project.joined earlier) chunks longer := by
  refine ⟨fun functions later occupied => ?_, fun classes later occupied => ?_,
    fun earlier later => ?_⟩
  · exact (chunker.functionPacking_productive budget).pack_goesOn occupied later
  · exact (chunker.classPacking_productive budget).pack_goesOn occupied later
  · refine ⟨_, _, chunker.yields_chunkWithin budget _, chunker.yields_chunkWithin budget _, ?_⟩
    rw [Project.joined_append]
    exact chunker.extends_chunkWithin budget _ _

/-- A chunker to which everything has the same size. -/
def uniform (size : Nat) : Chunker := ⟨.standard, fun _ => size⟩

/-- A second function, a second class and a second file leave what was packed before them. -/
theorem pack_append_stable_uniform :
    [bareMethod "f"] ≠ [] ∧ [methodsClass "C" ["f"]] ≠ [] ∧
    GoesOn (((uniform 2).functionPacking ⟨3, by decide⟩).pack [bareMethod "f"])
      (((uniform 2).functionPacking ⟨3, by decide⟩).pack ([bareMethod "f"] ++ [bareMethod "g"])) ∧
    GoesOn (((uniform 5).classPacking ⟨3, by decide⟩).pack [methodsClass "C" ["f"]])
      (((uniform 5).classPacking ⟨3, by decide⟩).pack
        ([methodsClass "C" ["f"]] ++ [methodsClass "D" []])) ∧
    ∃ chunks longer,
      (uniform 2).Yields ⟨3, by decide⟩ ⟨[bareMethod "f"], [methodsClass "C" ["f"]]⟩ chunks ∧
      (uniform 2).Yields ⟨3, by decide⟩
        ⟨[bareMethod "f", bareMethod "g"], [methodsClass "C" ["f"]]⟩ longer ∧
      GoesOn (functionGroups chunks) (functionGroups longer) ∧
      GoesOn (classGroups chunks) (classGroups longer) := by
  have functions : [bareMethod "f"] ≠ [] := List.cons_ne_nil _ _
  have classes : [methodsClass "C" ["f"]] ≠ [] := List.cons_ne_nil _ _
  obtain ⟨_, _, files⟩ := (uniform 2).pack_append_stable ⟨3, by decide⟩
  obtain ⟨chunks, longer, before, after, extended⟩ :=
    files [.found ⟨[bareMethod "f"], [methodsClass "C" ["f"]]⟩, .failed ⟨"b.ts", "unknown"⟩]
      [.found ⟨[bareMethod "g"], []⟩]
  refine ⟨functions, classes, ((uniform 2).pack_append_stable _).1 _ _ functions,
    ((uniform 5).pack_append_stable _).2.1 _ _ classes, chunks, longer, before, after,
    extended.functions functions, extended.classes classes⟩

end Chunker

end CodeAtlas
