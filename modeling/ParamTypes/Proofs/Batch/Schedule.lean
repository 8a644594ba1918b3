import Mathlib.Data.List.Induction
import Mathlib.Data.List.Perm.Basic
import ParamTypes.Proofs.Batch.Task

/-!
A batch under any schedule.

The tasks of a batch stand in a list. A schedule names the task of each turn in
succession, so turns of different jobs may be interleaved in any way. No turn
changes what any task comes to answer, and a task is done when it has had its
turns: whatever the schedule, a batch answers what a loop over the jobs does.
-/

namespace ParamTypes

/-! ## Schedules -/

namespace Job.Task

def turn (options : Options) (tasks : List Task) (index : Nat) : List Task :=
  tasks.modify index (step options)

def runSchedule (options : Options) (tasks : List Task) (schedule : List Nat) :
    List Task :=
  schedule.foldl (turn options) tasks

def results? (tasks : List Task) : Option (List (Declaration × List Diagnostic)) :=
  tasks.mapM result?

theorem map_outcome_turn (options : Options) (tasks : List Task) (index : Nat) :
    (turn options tasks index).map (outcome options) = tasks.map (outcome options) := by
  apply List.ext_getElem?
  intro position
  rw [List.getElem?_map, List.getElem?_map, turn, List.getElem?_modify]
  cases tasks[position]? with
  | none => rfl
  | some task =>
      by_cases same : index = position
      · simp [same, outcome_step]
      · simp [same]

theorem map_outcome_runSchedule (options : Options) (tasks : List Task)
    (schedule : List Nat) :
    (runSchedule options tasks schedule).map (outcome options) =
      tasks.map (outcome options) := by
  induction schedule generalizing tasks with
  | nil => rfl
  | cons index schedule induction =>
      rw [runSchedule, List.foldl_cons, ← runSchedule, induction, map_outcome_turn]

theorem turnsLeft_turn (options : Options) (tasks : List Task) (index position : Nat) :
    (turn options tasks index)[position]?.map turnsLeft =
      tasks[position]?.map fun task =>
        task.turnsLeft - if index = position then 1 else 0 := by
  rw [turn, List.getElem?_modify]
  cases tasks[position]? with
  | none => rfl
  | some task =>
      by_cases same : index = position
      · simp [same, turnsLeft_step]
      · simp [same]

theorem turnsLeft_runSchedule (options : Options) (tasks : List Task)
    (schedule : List Nat) (position : Nat) :
    (runSchedule options tasks schedule)[position]?.map turnsLeft =
      tasks[position]?.map fun task => task.turnsLeft - schedule.count position := by
  induction schedule generalizing tasks with
  | nil => rfl
  | cons index schedule induction =>
      have first := turnsLeft_turn options tasks index position
      rw [runSchedule, List.foldl_cons, ← runSchedule, induction]
      cases before : tasks[position]? with
      | none =>
          have behind : (turn options tasks index)[position]? = none := by
            simpa [before] using first
          rw [behind]
          rfl
      | some task =>
          rw [before, Option.map_some] at first
          rcases Option.map_eq_some_iff.mp first with ⟨next, isNext, counted⟩
          rw [isNext, Option.map_some, Option.map_some, counted, List.count_cons]
          simp only [beq_iff_eq, Option.some.injEq]
          omega

theorem turnsLeft_eq_zero_iff (options : Options) (tasks : List Task)
    (schedule : List Nat) :
    (∀ task ∈ runSchedule options tasks schedule, task.turnsLeft = 0) ↔
      ∀ position task, tasks[position]? = some task →
        task.turnsLeft ≤ schedule.count position := by
  constructor
  · intro finished position task before
    have left := turnsLeft_runSchedule options tasks schedule position
    rw [before, Option.map_some] at left
    rcases Option.map_eq_some_iff.mp left with ⟨last, isLast, counted⟩
    have done := finished last (List.mem_of_getElem? isLast)
    omega
  · intro enough last member
    rcases List.getElem?_of_mem member with ⟨position, isLast⟩
    have left := turnsLeft_runSchedule options tasks schedule position
    rw [isLast, Option.map_some] at left
    rcases Option.map_eq_some_iff.mp left.symm with ⟨task, before, counted⟩
    have turns := enough position task before
    omega

theorem results?_eq_some_iff (options : Options) (tasks : List Task)
    (results : List (Declaration × List Diagnostic)) :
    results? tasks = some results ↔
      (∀ task ∈ tasks, task.turnsLeft = 0) ∧ tasks.map (outcome options) = results := by
  rw [results?]
  induction tasks generalizing results with
  | nil => simp [eq_comm]
  | cons task tasks induction =>
      rw [List.mapM_cons, result?_eq options]
      by_cases done : task.turnsLeft = 0
      · cases others : tasks.mapM result? with
        | none =>
            have unfinished : ¬ ∀ other ∈ tasks, other.turnsLeft = 0 := by
              intro finished
              have found := (induction (tasks.map (outcome options))).mpr ⟨finished, rfl⟩
              rw [others] at found
              cases found
            simp [done, unfinished]
        | some found =>
            rcases (induction found).mp others with ⟨finished, isFound⟩
            simpa [done, isFound] using fun _ => finished
      · simp [done]

end Job.Task

/-! ## Batches -/

namespace Job

/-- The turns from the beginning of a job to its end: one to begin, one for each
parameter that is visited, one to take the diagnostics. -/
def turns (job : Job) : Nat :=
  job.declaration.visits + 2

def gather (results : List (Declaration × List Diagnostic)) :
    List Declaration × List Diagnostic :=
  (results.map Prod.fst, results.flatMap Prod.snd)

/-- The answer of a batch whose jobs are worked on by a schedule, if that ends all
of them. -/
def runScheduled? (jobs : List Job) (options : Options) (schedule : List Nat) :
    Option (List Declaration × List Diagnostic) :=
  (Task.results? (Task.runSchedule options (jobs.map fun job => { job }) schedule)).map gather

def jobByJob (jobs : List Job) (order : List Nat) : List Nat :=
  order.flatMap fun index => List.replicate (jobs[index]?.elim 0 turns) index

def runInTurn (jobs : List Job) (options : Options) :
    List Declaration × List Diagnostic :=
  jobs.foldl (fun done job =>
    let (declaration, diagnostics) := job.run options
    (done.1 ++ [declaration], done.2 ++ diagnostics)) ([], [])

theorem runAll_eq_gather (jobs : List Job) (options : Options) :
    runAll jobs options = gather (jobs.map (·.run options)) := rfl

theorem runInTurn_eq_runAll (jobs : List Job) (options : Options) :
    runInTurn jobs options = runAll jobs options := by
  induction jobs using List.reverseRecOn with
  | nil => rfl
  | append_singleton jobs job induction =>
      rw [runInTurn, List.foldl_append, ← runInTurn, induction, runAll_append]
      simp [runAll]

theorem runScheduled?_eq_some_iff (jobs : List Job) (options : Options)
    (schedule : List Nat) (answer : List Declaration × List Diagnostic) :
    runScheduled? jobs options schedule = some answer ↔
      (∀ index job, jobs[index]? = some job → job.turns ≤ schedule.count index) ∧
        answer = runAll jobs options := by
  let tasks : List Task := jobs.map fun job => { job }
  have outcomes : tasks.map (Task.outcome options) = jobs.map (·.run options) := by
    simp [tasks, Function.comp_def, Task.outcome]
  have enough : (∀ index task, tasks[index]? = some task →
        task.turnsLeft ≤ schedule.count index) ↔
      ∀ index job, jobs[index]? = some job → job.turns ≤ schedule.count index := by
    simp [tasks, Task.turnsLeft, turns]
  rw [runScheduled?, Option.map_eq_some_iff, runAll_eq_gather]
  simp only [Task.results?_eq_some_iff options, Task.map_outcome_runSchedule,
    Task.turnsLeft_eq_zero_iff]
  rw [enough, outcomes]
  constructor
  · intro gathered
    rcases gathered with ⟨results, ⟨finished, rfl⟩, same⟩
    exact ⟨finished, same.symm⟩
  · intro gathered
    exact ⟨_, ⟨gathered.1, rfl⟩, gathered.2.symm⟩

theorem turns_le_count_jobByJob {jobs : List Job} {order : List Nat} {index : Nat}
    {job : Job} (atIndex : jobs[index]? = some job) (scheduled : index ∈ order) :
    job.turns ≤ (jobByJob jobs order).count index := by
  rcases List.append_of_mem scheduled with ⟨before, after, rfl⟩
  rw [jobByJob, List.flatMap_append, List.flatMap_cons, List.count_append,
    List.count_append, atIndex, Option.elim_some, List.count_replicate_self]
  omega

theorem filterMap_getElem?_range (jobs : List Job) :
    (List.range jobs.length).filterMap (jobs[·]?) = jobs := by
  induction jobs with
  | nil => rfl
  | cons job jobs induction =>
      rw [List.length_cons, List.range_succ_eq_map,
        List.filterMap_cons_some (List.getElem?_cons_zero), List.filterMap_map]
      exact congrArg (job :: ·) induction

/-- A batch that is worked on by a schedule answers exactly when every job gets its
turns, and then what a loop over the jobs answers. In particular it does so when
the jobs are run one by one in any order. Batches that are joined have their
answers joined, and jobs in another order have their results in that order: none
is changed, and no diagnostic is lost. -/
theorem scheduled_eq_runInTurn (jobs : List Job) (options : Options) :
    (∀ (schedule : List Nat) (answer : List Declaration × List Diagnostic),
        runScheduled? jobs options schedule = some answer ↔
          (∀ index job, jobs[index]? = some job → job.turns ≤ schedule.count index) ∧
            answer = runInTurn jobs options) ∧
      runAll jobs options = runInTurn jobs options ∧
      runInTurn jobs options = gather (jobs.map (·.run options)) ∧
      (∀ later : List Job,
        runAll (jobs ++ later) options =
          ((runAll jobs options).1 ++ (runAll later options).1,
            (runAll jobs options).2 ++ (runAll later options).2)) ∧
      ∀ order : List Nat, order.Perm (List.range jobs.length) →
        let permuted := order.filterMap (jobs[·]?)
        runScheduled? jobs options (jobByJob jobs order) = some (runInTurn jobs options) ∧
          permuted.Perm jobs ∧
          runAll permuted options =
            gather (order.filterMap ((jobs.map (·.run options))[·]?)) ∧
          (runAll permuted options).2.Perm (runAll jobs options).2 := by
  refine ⟨?_, ?_, ?_, fun later => runAll_append jobs later options, ?_⟩
  · intro schedule answer
    rw [runScheduled?_eq_some_iff, runInTurn_eq_runAll]
  · rw [runInTurn_eq_runAll]
  · rw [runInTurn_eq_runAll, runAll_eq_gather]
  · intro order isOrder permuted
    have shuffled : permuted.Perm jobs := by
      have places := isOrder.filterMap (jobs[·]?)
      rwa [filterMap_getElem?_range] at places
    refine ⟨?_, shuffled, ?_, ?_⟩
    · rw [runInTurn_eq_runAll, runScheduled?_eq_some_iff]
      refine ⟨?_, rfl⟩
      -- Of the permutation only this is needed: no job is left out.
      intro index job atIndex
      apply turns_le_count_jobByJob atIndex
      rcases List.getElem?_eq_some_iff.mp atIndex with ⟨inside, _⟩
      exact isOrder.mem_iff.mpr (List.mem_range.mpr inside)
    · simp [runAll_eq_gather, permuted, List.map_filterMap]
    · rw [runAll_eq_gather, runAll_eq_gather]
      exact (shuffled.map (·.run options)).flatMap_right Prod.snd

theorem scheduled_alternating :
    let job : Job :=
      { declaration :=
          { name := "f"
            signature.parameters.parameters :=
              [⟨"n", .ofKeyword .int, false, some (.ofKeyword .string)⟩] }
        site := .ofLine "a.src" 3
        comment := ∅ }
    let answer := runInTurn [job, job] {}
    runScheduled? [job, job] {} [1, 0, 1, 0, 0, 1] = some answer ∧
      [1, 0].Perm (List.range [job, job].length) ∧
      runScheduled? [job, job] {} (jobByJob [job, job] [1, 0]) = some answer ∧
      answer.2.map Diagnostic.code =
        [Issue.typeMismatchDefault.code, Issue.typeMismatchDefault.code] := by
  intro job answer
  have turns : ∀ index other, [job, job][index]? = some other →
      other.turns ≤ [1, 0, 1, 0, 0, 1].count index
    | 0, _, rfl => by decide
    | 1, _, rfl => by decide
  have isOrder : [1, 0].Perm (List.range [job, job].length) := by decide
  have facts := scheduled_eq_runInTurn [job, job] {}
  refine ⟨(facts.1 _ answer).mpr ⟨turns, rfl⟩, isOrder, (facts.2.2.2.2 _ isOrder).1, ?_⟩
  decide +kernel

end Job

end ParamTypes
