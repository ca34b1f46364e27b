import CodeAtlas.Proofs.Project.Merging
import Mathlib.Data.List.Count
import Mathlib.Data.List.Perm.Basic
import Mathlib.Data.List.Nodup
import Mathlib.Data.List.Range

/-!
# Pools of workers

With several workers each accepted file has a task of its own. A task waits for a slot, holds it
while the file is parsed, and gives it back with what came of the file. Which task goes on next is
left open but for the slots. Every run parses no more files at once than there are workers, can be
completed, and ends with the analysis of the files one after the other: `run_matches_sequential`.
-/
namespace CodeAtlas

namespace Project

/-- How far a file has come. -/
inductive Task where
  /-- It waits for a slot. -/
  | waiting
  /-- It has a slot, and is parsed by the parser that the registry named, if any. -/
  | parsing (parser : Option FileParser)
  /-- It has given its slot back. -/
  | finished (outcome : Outcome)

namespace Task

/-- Whether a task waits. -/
def isWaiting : Task → Bool
  | .waiting => true
  | _ => false

/-- Whether a task holds a slot. -/
def isParsing : Task → Bool
  | .parsing _ => true
  | _ => false

/-- What came of a finished task. -/
def outcome? : Task → Option Outcome
  | .finished outcome => some outcome
  | _ => none

/-- How often a task was started. -/
def starts : Task → Nat
  | .waiting => 0
  | .parsing _ => 1
  | .finished _ => 1

/-- How often a task was finished. -/
def finishes : Task → Nat
  | .waiting => 0
  | .parsing _ => 0
  | .finished _ => 1

end Task

/-- The tasks of files, with what they share. -/
structure Pool where
  /-- The number of free slots. -/
  slots : Nat
  /-- The registry, which every task asks when it starts. -/
  registry : Registry
  /-- The tasks, in the order of the files. -/
  tasks : List Task

namespace Pool

/-- What may happen in a pool. -/
inductive Action where
  /-- A task takes a slot. -/
  | start (index : Nat)
  /-- A task gives its slot back. -/
  | finish (index : Nat)
  deriving DecidableEq, Repr

/-- The pool in which every file waits. -/
def initial (workers : Workers) (registry : Registry) (files : List Path) : Pool :=
  ⟨workers.count, registry, files.map fun _ => .waiting⟩

/-- The pool after a task takes a slot and asks the registry for its parser. -/
def start (pool : Pool) (index : Nat) (path : Path) : Pool where
  slots := pool.slots - 1
  registry := (pool.registry.select path.text).2
  tasks := pool.tasks.set index (.parsing (pool.registry.select path.text).1)

/-- The pool after a task gives its slot back. -/
def finish (system : FileSystem) (pool : Pool) (index : Nat) (path : Path)
    (parser : Option FileParser) : Pool where
  slots := pool.slots + 1
  registry := pool.registry
  tasks := pool.tasks.set index (.finished (outcome system path parser))

/-- A task that waits may start as soon as a slot is free; one that is parsing may finish at any
time. -/
inductive Step (system : FileSystem) (files : List Path) : Pool → Action → Pool → Prop
  /-- A task starts. -/
  | start {pool : Pool} {index : Nat} {path : Path} (file : files[index]? = some path)
      (waits : pool.tasks[index]? = some .waiting) (free : 0 < pool.slots) :
      Step system files pool (.start index) (pool.start index path)
  /-- A task finishes. -/
  | finish {pool : Pool} {index : Nat} {path : Path} {parser : Option FileParser}
      (file : files[index]? = some path) (parses : pool.tasks[index]? = some (.parsing parser)) :
      Step system files pool (.finish index) (pool.finish system index path parser)

/-- The actions that lead from one pool to another. -/
inductive Run (system : FileSystem) (files : List Path) (origin : Pool) :
    List Action → Pool → Prop
  /-- Nothing has happened. -/
  | nil : Run system files origin [] origin
  /-- One more thing has happened. -/
  | snoc {actions : List Action} {action : Action} {pool next : Pool}
      (before : Run system files origin actions pool) (step : Step system files pool action next) :
      Run system files origin (actions ++ [action]) next

/-- The number of files that are being parsed. -/
def active (pool : Pool) : Nat := pool.tasks.countP Task.isParsing

/-- All tasks are finished. -/
def Completed (pool : Pool) : Prop := ∀ task ∈ pool.tasks, ∃ outcome, task = .finished outcome

/-- What came of the tasks, in the order of the files. -/
def results (pool : Pool) : List Outcome := pool.tasks.filterMap Task.outcome?

/-- The analysis that is put together from a pool, when some files were listed. -/
def analysis (pool : Pool) (listed : List Path) : ProjectAnalysis :=
  ⟨joined pool.results, failures pool.results, listed.length, pool.tasks.length⟩

/-- How often the task of a file was started. -/
def starts (pool : Pool) (index : Nat) : Nat := (pool.tasks[index]?).elim 0 Task.starts

/-- How often the task of a file was finished. -/
def finishes (pool : Pool) (index : Nat) : Nat := (pool.tasks[index]?).elim 0 Task.finishes

/-- How much is left to happen: both actions of a task that waits, and one of a task that is
parsing. -/
def remaining (pool : Pool) : Nat := 2 * pool.tasks.countP Task.isWaiting + pool.active

/-- The tasks that actions started, in order. -/
def started (actions : List Action) : List Nat :=
  actions.filterMap fun
    | .start index => some index
    | .finish _ => none

end Pool

/-! ## What does not depend on the schedule -/

/-- The registry after it was asked about some of the files, given by their places. -/
def asked (registry : Registry) (files : List Path) (earlier : List Nat) : Registry :=
  (earlier.filterMap (files[·]?)).foldl (fun registry path => (registry.select path.text).2)
    registry

/-- What comes of each file is fixed, whichever other files the registry was asked about before. -/
def Settled (system : FileSystem) (registry : Registry) (files : List Path)
    (made : Nat → Outcome) : Prop :=
  ∀ index path earlier, files[index]? = some path → earlier.Nodup → index ∉ earlier →
    outcome system path ((asked registry files earlier).select path.text).1 = made index

variable {system : FileSystem} {registry : Registry} {files : List Path} {made : Nat → Outcome}

/-- Asking about one more file. -/
theorem asked_concat {index : Nat} {path : Path} (file : files[index]? = some path)
    (earlier : List Nat) :
    asked registry files (earlier ++ [index]) =
      ((asked registry files earlier).select path.text).2 := by
  simp only [asked, List.filterMap_append, List.filterMap_cons, file, List.filterMap_nil,
    List.foldl_append, List.foldl_cons, List.foldl_nil]

/-- Asking about the first file and then about some of the others. -/
theorem asked_cons (path : Path) (paths : List Path) (earlier : List Nat) :
    asked registry (path :: paths) (0 :: earlier.map (· + 1)) =
      asked (registry.select path.text).2 paths earlier := by
  simp only [asked, List.filterMap_cons, List.getElem?_cons_zero, List.filterMap_map,
    Function.comp_def, List.getElem?_cons_succ, List.foldl_cons]

/-- Asking about files keeps the parsers. -/
theorem toList_asked (earlier : List Nat) :
    (asked registry files earlier).toList = registry.toList := by
  unfold asked
  generalize earlier.filterMap (files[·]?) = paths
  induction paths generalizing registry with
  | nil => rfl
  | cons path paths ih => rw [List.foldl_cons, ih, Registry.toList_select]

/-- What the first parser that accepts a file makes of it; nothing, where there is no file. -/
def foreseen (system : FileSystem) (registry : Registry) (files : List Path) (index : Nat) :
    Outcome :=
  (files[index]?).elim (.found .empty) fun path =>
    outcome system path (registry.parser? path.text)

/-- With steady parsers nothing depends on the schedule. -/
theorem settled_of_steady (steady : registry.Steady) :
    Settled system registry files (foreseen system registry files) := by
  intro index path earlier file _ _
  have kept : (asked registry files earlier).toList = registry.toList := toList_asked earlier
  rw [(steady.of_toList_eq kept).select_eq_parser?, Registry.parser?_of_toList_eq kept, foreseen,
    file]
  rfl

/-- What is settled about files is settled about those after the first, once it was asked about. -/
theorem Settled.tail {path : Path} {paths : List Path}
    (settled : Settled system registry (path :: paths) made) :
    Settled system (registry.select path.text).2 paths fun index => made (index + 1) := by
  intro index other earlier file nodup fresh
  -- Seen from the first file, the others are one place further on, and it was asked about first.
  have apart : (0 :: earlier.map (· + 1)).Nodup := by
    refine List.nodup_cons.mpr ⟨by simp, ?_⟩
    exact nodup.map fun _ _ same => Nat.succ.inj same
  have missing : index + 1 ∉ 0 :: earlier.map (· + 1) := by simpa using fresh
  have same := settled (index + 1) other (0 :: earlier.map (· + 1)) file apart missing
  rwa [asked_cons] at same

/-- One after the other, the files come to what is settled about them. -/
theorem outcomes_eq_made (settled : Settled system registry files made) :
    (outcomes system registry files).1 = (List.range files.length).map made := by
  induction files generalizing registry made with
  | nil => rfl
  | cons path paths ih =>
    have first := settled 0 path [] rfl List.nodup_nil List.not_mem_nil
    have others := ih settled.tail
    simp only [outcomes, others, List.length_cons, List.range_succ_eq_map, List.map_cons,
      List.map_map]
    exact congrArg (· :: _) first

namespace Pool

/-! ## What one step does -/

variable {workers : Workers} {origin pool next : Pool} {actions : List Action} {action : Action}

/-- Runs can be put one after the other. -/
theorem Run.append {middle : Pool} {more : List Action}
    (before : Run system files origin actions middle)
    (after : Run system files middle more pool) :
    Run system files origin (actions ++ more) pool := by
  induction after with
  | nil => rwa [List.append_nil]
  | snoc _ step ih =>
    rw [← List.append_assoc]
    exact .snoc ih step

/-- Replacing a task changes how many tasks have a property by what the two tasks have of it. -/
theorem countP_set_add {tasks : List Task} {index : Nat} {old : Task}
    (found : tasks[index]? = some old) (holds : Task → Bool) (new : Task) :
    (tasks.set index new).countP holds + (holds old).toNat =
      tasks.countP holds + (holds new).toNat := by
  obtain ⟨inside, rfl⟩ := List.getElem?_eq_some_iff.mp found
  have enough : (holds tasks[index]).toNat ≤ tasks.countP holds := by
    cases held : holds tasks[index] with
    | false => exact Nat.zero_le _
    | true => exact List.countP_pos_iff.mpr ⟨_, List.getElem_mem inside, held⟩
  have toNat (held : Bool) : (if held = true then 1 else 0) = held.toNat := by cases held <;> rfl
  rw [List.countP_set inside, toNat, toNat]
  omega

/-- A slot is taken by each file that is being parsed, and by nothing else. -/
theorem Step.slots_add_active (step : Step system files pool action next) :
    next.slots + next.active = pool.slots + pool.active := by
  cases step with
  | @start index path _ waits free =>
    have counted : (pool.start index path).active + 0 = pool.active + 1 :=
      countP_set_add waits Task.isParsing _
    have taken : (pool.start index path).slots = pool.slots - 1 := rfl
    omega
  | @finish index path parser _ parses =>
    have counted : (pool.finish system index path parser).active + 1 = pool.active + 0 :=
      countP_set_add parses Task.isParsing _
    have returned : (pool.finish system index path parser).slots = pool.slots + 1 := rfl
    omega

/-- Each step leaves less to happen. -/
theorem Step.remaining_eq (step : Step system files pool action next) :
    pool.remaining = next.remaining + 1 := by
  cases step with
  | @start index path _ waits _ =>
    have fewer : (pool.start index path).tasks.countP Task.isWaiting + 1 =
        pool.tasks.countP Task.isWaiting + 0 := countP_set_add waits Task.isWaiting _
    have more : (pool.start index path).active + 0 = pool.active + 1 :=
      countP_set_add waits Task.isParsing _
    unfold remaining
    omega
  | @finish index path parser _ parses =>
    have same : (pool.finish system index path parser).tasks.countP Task.isWaiting + 0 =
        pool.tasks.countP Task.isWaiting + 0 := countP_set_add parses Task.isWaiting _
    have fewer : (pool.finish system index path parser).active + 1 = pool.active + 0 :=
      countP_set_add parses Task.isParsing _
    unfold remaining
    omega

/-- Replacing a task changes what is counted at its place only. -/
theorem elim_set {tasks : List Task} {index : Nat} {old : Task}
    (found : tasks[index]? = some old) (weight : Task → Nat) (new : Task) (place : Nat) :
    ((tasks.set index new)[place]?).elim 0 weight =
      if index = place then weight new else (tasks[place]?).elim 0 weight := by
  obtain ⟨inside, rfl⟩ := List.getElem?_eq_some_iff.mp found
  rw [List.getElem?_set]
  split <;> simp [*]

/-- What a step does is counted once, at the task that it is about. -/
theorem Step.counts (step : Step system files pool action next) (index : Nat) :
    next.starts index = pool.starts index + [action].count (.start index) ∧
      next.finishes index = pool.finishes index + [action].count (.finish index) := by
  cases step with
  | @start place path _ waits _ =>
    simp only [starts, finishes, Pool.start, elim_set waits]
    by_cases here : place = index
    · subst here
      simp [waits, Task.starts, Task.finishes]
    · simp [here]
  | @finish place path parser _ parses =>
    simp only [starts, finishes, Pool.finish, elim_set parses]
    by_cases here : place = index
    · subst here
      simp [parses, Task.starts, Task.finishes]
    · simp [here]

/-! ## What a run reaches -/

/-- The tasks that one more action starts. -/
theorem started_concat (actions : List Action) (action : Action) :
    started (actions ++ [action]) = started actions ++ started [action] :=
  List.filterMap_append

/-- A task is among the started ones as often as it was started. -/
theorem count_started (actions : List Action) (index : Nat) :
    (started actions).count index = actions.count (.start index) := by
  induction actions with
  | nil => rfl
  | cons action actions ih =>
    cases action with
    | start place =>
      change (place :: started actions).count index = _
      simp only [List.count_cons, ih, beq_iff_eq, Action.start.injEq]
    | finish place =>
      change (started actions).count index = _
      simp only [List.count_cons, ih, beq_iff_eq, reduceCtorEq, if_false, Nat.add_zero]

/-- A task shows that it was started once, or never. -/
theorem starts_le_one (pool : Pool) (index : Nat) : pool.starts index ≤ 1 := by
  unfold starts
  rcases pool.tasks[index]? with _ | (_ | _ | _)
  · exact Nat.zero_le 1
  · exact Nat.zero_le 1
  · exact Nat.le_refl 1
  · exact Nat.le_refl 1

/-- A replaced task is the new one at its place, and an old one elsewhere. -/
theorem of_getElem?_set {tasks : List Task} {place index : Nat} {new task : Task}
    (found : (tasks.set place new)[index]? = some task) :
    place = index ∧ task = new ∨ tasks[index]? = some task := by
  rw [List.getElem?_set] at found
  split at found
  · split at found
    · exact .inl ⟨‹_›, (Option.some.inj found).symm⟩
    · contradiction
  · exact .inr found

/-- What actions tell about the pool that they led to, whatever order they came in. -/
structure Reached (workers : Workers) (system : FileSystem) (registry : Registry)
    (files : List Path) (made : Nat → Outcome) (actions : List Action) (pool : Pool) : Prop where
  /-- Each slot is free or taken by a file that is being parsed. -/
  shared : pool.slots + pool.active = workers.count
  /-- Each file has a task. -/
  places : pool.tasks.length = files.length
  /-- Each task shows how often it was started. -/
  starts : ∀ index, pool.starts index = actions.count (.start index)
  /-- Each task shows how often it was finished. -/
  finishes : ∀ index, pool.finishes index = actions.count (.finish index)
  /-- The registry was asked about the files whose tasks were started. -/
  consulted : pool.registry = asked registry files (started actions)
  /-- A file that is being parsed will come to what is settled about it. -/
  promised : ∀ index path parser, files[index]? = some path →
    pool.tasks[index]? = some (.parsing parser) → outcome system path parser = made index
  /-- A finished task came to what is settled about its file. -/
  kept : ∀ index result, pool.tasks[index]? = some (.finished result) → result = made index

/-- At first every task waits. -/
theorem eq_waiting_of_mem_initial {task : Task}
    (member : task ∈ (initial workers registry files).tasks) : task = .waiting := by
  obtain ⟨_, _, rfl⟩ := List.mem_map.mp member
  rfl

/-- Before anything happens all slots are free and all tasks wait. -/
theorem initial_reached :
    Reached workers system registry files made [] (initial workers registry files) := by
  have waits {index : Nat} {task : Task}
      (found : (initial workers registry files).tasks[index]? = some task) : task = .waiting :=
    eq_waiting_of_mem_initial (List.mem_of_getElem? found)
  have uncounted (index : Nat) : (initial workers registry files).starts index = 0 ∧
      (initial workers registry files).finishes index = 0 := by
    unfold starts finishes
    cases found : (initial workers registry files).tasks[index]? with
    | none => exact ⟨rfl, rfl⟩
    | some task =>
      obtain rfl := waits found
      exact ⟨rfl, rfl⟩
  have idle : (initial workers registry files).active = 0 := by
    refine List.countP_eq_zero.mpr fun task member => ?_
    obtain rfl := eq_waiting_of_mem_initial member
    exact Bool.false_ne_true
  refine { shared := ?shared, places := List.length_map _,
           starts := fun index => (uncounted index).1,
           finishes := fun index => (uncounted index).2,
           consulted := rfl, promised := ?promised, kept := ?kept }
  case shared =>
    rw [idle]
    rfl
  case promised =>
    intro index path parser file found
    cases waits found
  case kept =>
    intro index result found
    cases waits found

/-- A task that waits gets the parser of a settled outcome, since the registry was asked about
other files only. -/
theorem Reached.promise (reached : Reached workers system registry files made actions pool)
    (settled : Settled system registry files made) {index : Nat} {path : Path}
    (file : files[index]? = some path) (waits : pool.tasks[index]? = some .waiting) :
    outcome system path (pool.registry.select path.text).1 = made index := by
  rw [reached.consulted]
  refine settled index path (started actions) file ?_ ?_
  · refine List.nodup_iff_count_le_one.mpr fun place => ?_
    rw [count_started, ← reached.starts]
    exact pool.starts_le_one place
  · rw [← List.count_eq_zero, count_started, ← reached.starts, Pool.starts, waits]
    rfl

/-- A step keeps what the actions tell about the pool. -/
theorem Reached.step (reached : Reached workers system registry files made actions pool)
    (settled : Settled system registry files made) (step : Step system files pool action next) :
    Reached workers system registry files made (actions ++ [action]) next := by
  have shared := step.slots_add_active.trans reached.shared
  have starts (index : Nat) : next.starts index = (actions ++ [action]).count (.start index) := by
    rw [(step.counts index).1, reached.starts, List.count_append]
  have finishes (index : Nat) :
      next.finishes index = (actions ++ [action]).count (.finish index) := by
    rw [(step.counts index).2, reached.finishes, List.count_append]
  cases step with
  | @start place path file waits free =>
    refine { shared, places := ?places, starts, finishes, consulted := ?consulted,
             promised := ?promised, kept := ?kept }
    case places => exact (List.length_set ..).trans reached.places
    case consulted =>
      calc
        (pool.start place path).registry = (pool.registry.select path.text).2 := rfl
        _ = ((asked registry files (started actions)).select path.text).2 := by
          rw [reached.consulted]
        _ = asked registry files (started actions ++ [place]) := (asked_concat file _).symm
        _ = asked registry files (started (actions ++ [.start place])) := by
          rw [started_concat]
          rfl
    case promised =>
      intro index other parser here found
      rcases of_getElem?_set found with ⟨rfl, same⟩ | old
      · cases same
        cases file.symm.trans here
        exact reached.promise settled file waits
      · exact reached.promised index other parser here old
    case kept =>
      intro index result found
      rcases of_getElem?_set found with ⟨_, same⟩ | old
      · cases same
      · exact reached.kept index result old
  | @finish place path parser file parses =>
    refine { shared, places := ?places, starts, finishes, consulted := ?consulted,
             promised := ?promised, kept := ?kept }
    case places => exact (List.length_set ..).trans reached.places
    case consulted =>
      -- Finishing asks the registry nothing.
      have same : started (actions ++ [.finish place]) = started actions := by
        rw [started_concat]
        exact List.append_nil _
      rw [same]
      exact reached.consulted
    case promised =>
      intro index other parser' here found
      rcases of_getElem?_set found with ⟨_, same⟩ | old
      · cases same
      · exact reached.promised index other parser' here old
    case kept =>
      intro index result found
      rcases of_getElem?_set found with ⟨rfl, same⟩ | old
      · cases same
        exact reached.promised place path parser file parses
      · exact reached.kept index result old

/-- The actions of a run tell about the pool that it reaches. -/
theorem Run.reached (settled : Settled system registry files made)
    (run : Run system files (initial workers registry files) actions pool) :
    Reached workers system registry files made actions pool := by
  induction run with
  | nil => exact initial_reached
  | snoc _ step ih => exact ih.step settled step

/-! ## Every run can be completed -/

/-- As long as a task is not finished, something can happen: if no slot is free, then some file is
being parsed and can finish. -/
theorem Reached.progress (reached : Reached workers system registry files made actions pool)
    (unfinished : ¬ pool.Completed) : ∃ action next, Step system files pool action next := by
  have fileOf {index : Nat} (inside : index < pool.tasks.length) :
      ∃ path, files[index]? = some path :=
    ⟨_, List.getElem?_eq_getElem (reached.places ▸ inside)⟩
  have finishes {task : Task} (member : task ∈ pool.tasks) (parses : task.isParsing = true) :
      ∃ action next, Step system files pool action next := by
    obtain ⟨index, inside, rfl⟩ := List.mem_iff_getElem.mp member
    obtain ⟨path, file⟩ := fileOf inside
    cases held : pool.tasks[index] with
    | parsing parser =>
      exact ⟨_, _, .finish file ((List.getElem?_eq_getElem inside).trans (congrArg some held))⟩
    | waiting =>
      rw [held] at parses
      contradiction
    | finished result =>
      rw [held] at parses
      contradiction
  obtain ⟨task, member, different⟩ : ∃ task ∈ pool.tasks, ∀ result, task ≠ .finished result := by
    simpa only [Completed, not_forall, not_exists, exists_prop] using unfinished
  cases task with
  | finished result => exact absurd rfl (different result)
  | parsing parser => exact finishes member rfl
  | waiting =>
    -- Without a free slot all of them are taken, and there is at least one.
    rcases Nat.eq_zero_or_pos pool.slots with full | free
    · have busy : 0 < pool.active := by
        have := workers.positive
        have := reached.shared
        omega
      obtain ⟨other, among, parses⟩ := List.countP_pos_iff.mp busy
      exact finishes among parses
    · obtain ⟨index, found⟩ := List.mem_iff_getElem?.mp member
      obtain ⟨inside, _⟩ := List.getElem?_eq_some_iff.mp found
      obtain ⟨path, file⟩ := fileOf inside
      exact ⟨_, _, .start file found free⟩

/-- What was reached can be carried on to a completed pool. -/
theorem Reached.completes (settled : Settled system registry files made)
    (reached : Reached workers system registry files made actions pool) :
    ∃ more final, Run system files pool more final ∧ final.Completed := by
  induction left : pool.remaining using Nat.strongRecOn generalizing actions pool with
  | ind rest ih =>
    by_cases completed : pool.Completed
    · exact ⟨[], pool, .nil, completed⟩
    · obtain ⟨action, next, step⟩ := reached.progress completed
      have fewer := step.remaining_eq
      obtain ⟨more, final, run, ended⟩ :=
        ih next.remaining (by omega) (reached.step settled step) rfl
      exact ⟨[action] ++ more, final, (Run.snoc .nil step).append run, ended⟩

/-! ## What a completed run comes to -/

/-- The tasks of a completed pool show what is settled about the files. -/
theorem Reached.tasks_eq (reached : Reached workers system registry files made actions pool)
    (completed : pool.Completed) :
    pool.tasks = (List.range files.length).map fun index => .finished (made index) := by
  refine List.ext_getElem (by simpa using reached.places) fun index inside _ => ?_
  obtain ⟨result, ended⟩ := completed _ (List.getElem_mem inside)
  have found := (List.getElem?_eq_getElem inside).trans (congrArg some ended)
  rw [ended, reached.kept index result found, List.getElem_map, List.getElem_range]

/-- A completed pool has what is settled about the files, in their order. -/
theorem Reached.results_eq (reached : Reached workers system registry files made actions pool)
    (completed : pool.Completed) :
    pool.results = (List.range files.length).map made := by
  rw [results, reached.tasks_eq completed, List.filterMap_map, ← List.filterMap_eq_map]
  rfl

/-- Until a pool is completed, the task of each file was started once and finished once, and
nothing else happened. -/
theorem Reached.actions_perm (reached : Reached workers system registry files made actions pool)
    (completed : pool.Completed) :
    actions.Perm ((List.range files.length).map .start ++
      (List.range files.length).map .finish) := by
  have once (index : Nat) : pool.starts index = (List.range files.length).count index ∧
      pool.finishes index = (List.range files.length).count index := by
    simp only [Pool.starts, Pool.finishes, reached.tasks_eq completed, List.getElem?_map,
      List.nodup_range.count, List.mem_range]
    by_cases inside : index < files.length
    · simp [inside, Task.starts, Task.finishes]
    · simp [inside]
  have startInjective : Function.Injective Action.start := fun _ _ same => Action.start.inj same
  have finishInjective : Function.Injective Action.finish := fun _ _ same => Action.finish.inj same
  refine List.perm_iff_count.mpr fun action => ?_
  rw [List.count_append]
  cases action with
  | start index =>
    have apart : ((List.range files.length).map Action.finish).count (.start index) = 0 :=
      List.count_eq_zero.mpr (by simp)
    rw [← reached.starts, (once index).1, List.count_map_of_injective _ _ startInjective, apart,
      Nat.add_zero]
  | finish index =>
    have apart : ((List.range files.length).map Action.start).count (.finish index) = 0 :=
      List.count_eq_zero.mpr (by simp)
    rw [← reached.finishes, (once index).2, List.count_map_of_injective _ _ finishInjective, apart,
      Nat.zero_add]

/-- The analysis of files one after the other is put together from what is settled about them. -/
theorem analyze_eq_made {before after : Registry} {directory : String} {listed : List Path}
    (settled : Settled system after files made) (walked : listing system directory = .ok listed)
    (chosen : accepted before listed = (files, after)) :
    (analyze before system directory).1 =
      .ok ⟨joined ((List.range files.length).map made),
        failures ((List.range files.length).map made), listed.length, files.length⟩ := by
  unfold listing at walked
  simp only [analyze, walked, chosen, outcomes_eq_made settled]

/-- However the tasks of files take turns, no more of them are being parsed than there are workers,
they can all be finished, and when they are, each was started once and finished once, and what came
of them is what comes of the files one after the other. -/
theorem run_matches_sequential (workers : Workers)
    (settled : Settled system registry files made)
    (run : Run system files (initial workers registry files) actions pool) :
    pool.active ≤ workers.count ∧
      (∃ more final, Run system files pool more final ∧ final.Completed) ∧
      (pool.Completed →
        actions.Perm ((List.range files.length).map .start ++
          (List.range files.length).map .finish) ∧
        pool.results = (outcomes system registry files).1 ∧
        ∀ before directory listed, listing system directory = .ok listed →
          accepted before listed = (files, registry) →
          (analyze before system directory).1 = .ok (pool.analysis listed)) := by
  have reached := run.reached settled
  refine ⟨by have := reached.shared; omega, reached.completes settled, fun completed => ?_⟩
  have results := reached.results_eq completed
  refine ⟨reached.actions_perm completed, results.trans (outcomes_eq_made settled).symm, ?_⟩
  intro before directory listed walked chosen
  rw [analyze_eq_made settled walked chosen, analysis, results, reached.places]

/-- The files of a directory, one of them without a parser. -/
def fourListed : List Path :=
  [⟨0, ["p", "a.x"]⟩, ⟨0, ["p", "b.x"]⟩, ⟨0, ["p", "c.md"]⟩, ⟨0, ["p", "d.x"]⟩]

/-- Those of them that have a parser. -/
def threeAccepted : List Path :=
  [⟨0, ["p", "a.x"]⟩, ⟨0, ["p", "b.x"]⟩, ⟨0, ["p", "d.x"]⟩]

/-- A registry that was asked about all of them. -/
def consultedRegistry : Registry := (accepted (.ofList [moody "p/b.x"]) fourListed).2

/-- What is found in a file with one function. -/
def oneFunction (file : String) : Analysis :=
  ⟨[⟨"f", [], "any", none, "", ⟨file, 1, 1⟩⟩], []⟩

/-- Two workers take turns: the second file fails and the third is finished while the first is still
being parsed. The analysis has their functions and the failure in the order of the files all the
same. -/
theorem run_matches_sequential_moody :
    ∃ pool,
      Settled fourFiles consultedRegistry threeAccepted
        (foreseen fourFiles consultedRegistry threeAccepted) ∧
      Run fourFiles threeAccepted (initial ⟨2, by decide⟩ consultedRegistry threeAccepted)
        [.start 0, .start 1, .finish 1, .start 2, .finish 2, .finish 0] pool ∧
      pool.Completed ∧
      pool.results = (outcomes fourFiles consultedRegistry threeAccepted).1 ∧
      (analyze (.ofList [moody "p/b.x"]) fourFiles "p").1 = .ok (pool.analysis fourListed) ∧
      pool.analysis fourListed =
        ⟨oneFunction "p/a.x" ++ oneFunction "p/d.x", [⟨"p/b.x", "Broken"⟩], 4, 3⟩ := by
  have steady : (Registry.ofList [moody "p/b.x"]).Steady := by
    intro parser member
    obtain rfl := List.mem_singleton.mp member
    exact fun _ _ => rfl
  have settled : Settled fourFiles consultedRegistry threeAccepted
      (foreseen fourFiles consultedRegistry threeAccepted) :=
    settled_of_steady (steady.of_toList_eq (accepted_eq steady fourListed).2)
  obtain ⟨pool, tasks, run⟩ : ∃ pool : Pool,
      pool.tasks = [.finished (.found (oneFunction "p/a.x")),
        .finished (.failed ⟨"p/b.x", "Broken"⟩), .finished (.found (oneFunction "p/d.x"))] ∧
      Run fourFiles threeAccepted (initial ⟨2, by decide⟩ consultedRegistry threeAccepted)
        [.start 0, .start 1, .finish 1, .start 2, .finish 2, .finish 0] pool := by
    have both : Run fourFiles threeAccepted
        (initial ⟨2, by decide⟩ consultedRegistry threeAccepted) [.start 0, .start 1] _ :=
      .snoc (.snoc .nil (.start rfl rfl Nat.two_pos)) (.start rfl rfl Nat.one_pos)
    have overtaken : Run fourFiles threeAccepted
        (initial ⟨2, by decide⟩ consultedRegistry threeAccepted)
        [.start 0, .start 1, .finish 1, .start 2] _ :=
      .snoc (.snoc both (.finish rfl rfl)) (.start rfl rfl Nat.one_pos)
    exact ⟨_, rfl, .snoc (.snoc overtaken (.finish rfl rfl)) (.finish rfl rfl)⟩
  have completed : pool.Completed := by
    intro task member
    simp only [tasks, List.mem_cons, List.not_mem_nil, or_false] at member
    rcases member with rfl | rfl | rfl <;> exact ⟨_, rfl⟩
  obtain ⟨_, _, ends⟩ := run_matches_sequential ⟨2, by decide⟩ settled run
  obtain ⟨_, results, analyzed⟩ := ends completed
  refine ⟨pool, settled, run, completed, results, analyzed _ "p" fourListed rfl rfl, ?_⟩
  rw [analysis, Pool.results, tasks]
  rfl

end Pool

end Project

end CodeAtlas
