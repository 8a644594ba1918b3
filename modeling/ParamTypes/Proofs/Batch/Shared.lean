import ParamTypes.Proofs.Batch.Report

/-!
Jobs that share one collector, which may be emptied between any two of them.

A batch gives every job a collector of its own, so it repeats a diagnostic that two
jobs have in common; a shared collector keeps the first of them until it is emptied.
Apart from this the two ways answer the same (`Shared.Holds.foldl_step`).
-/

namespace ParamTypes.Job

/-! ## Events -/

inductive Event
  | run (job : Job)
  | take

namespace Event

def job? : Event → Option Job
  | run job => some job
  | take => none

/-- The jobs up to the next take, those that are run already included, then the jobs
between each take and the one after it, and those behind the last. -/
def sectionsFrom (held : List Job) : List Event → List (List Job)
  | [] => [held]
  | run job :: events => sectionsFrom (held ++ [job]) events
  | take :: events => held :: sectionsFrom [] events

def sections (events : List Event) : List (List Job) :=
  sectionsFrom [] events

example (first second third : Job) :
    sections [run first, take, take, run second, run third] =
      [[first], [], [second, third]] := rfl

theorem sectionsFrom_map_run (held jobs : List Job) :
    sectionsFrom held (jobs.map run) = [held ++ jobs] := by
  induction jobs generalizing held with
  | nil => rw [List.map_nil, sectionsFrom, List.append_nil]
  | cons job jobs induction =>
      rw [List.map_cons, sectionsFrom, induction, List.append_assoc, List.singleton_append]

end Event

/-! ## Shared collectors -/

structure Shared where
  declarations : List Declaration
  taken : List (List Diagnostic)
  collector : Collector

namespace Shared

def start (options : Options) : Shared :=
  ⟨[], [], .new options⟩

def step (shared : Shared) : Event → Shared
  | .run job =>
      let (declaration, told) :=
        job.declaration.reconcile job.comment job.site shared.collector
      { shared with declarations := shared.declarations ++ [declaration], collector := told }
  | .take =>
      let (diagnostics, emptied) := shared.collector.take
      { shared with taken := shared.taken ++ [diagnostics], collector := emptied }

def run (options : Options) (events : List Event) : Shared :=
  events.foldl step (start options)

@[simp] theorem declarations_step_run (shared : Shared) (job : Job) :
    (shared.step (.run job)).declarations =
      shared.declarations ++ [job.declaration.merged job.comment] := by
  rw [step, Declaration.reconcile_eq]

@[simp] theorem taken_step_run (shared : Shared) (job : Job) :
    (shared.step (.run job)).taken = shared.taken := rfl

@[simp] theorem collector_step_run (shared : Shared) (job : Job) :
    (shared.step (.run job)).collector = job.findings.foldl emit shared.collector := by
  rw [step, Declaration.reconcile_eq, ← findings]

@[simp] theorem declarations_step_take (shared : Shared) :
    (shared.step .take).declarations = shared.declarations := rfl

@[simp] theorem taken_step_take (shared : Shared) :
    (shared.step .take).taken = shared.taken ++ [shared.collector.diagnostics] := rfl

@[simp] theorem collector_step_take (shared : Shared) :
    (shared.step .take).collector = .new shared.collector.options := rfl

/-! ## Declarations -/

theorem declarations_foldl_step (shared : Shared) (events : List Event) (options : Options) :
    (events.foldl step shared).declarations =
      shared.declarations ++ (runAll (events.filterMap Event.job?) options).1 := by
  induction events generalizing shared with
  | nil => exact (List.append_nil _).symm
  | cons event events induction =>
      rw [List.foldl_cons, induction]
      cases event with
      | run job =>
          rw [declarations_step_run, List.filterMap_cons_some (by rfl), runAll_eq, runAll_eq]
          simp
      | take => rw [declarations_step_take, List.filterMap_cons_none (by rfl)]

/-! ## Diagnostics -/

def distinct (options : Options) (jobs : List Job) : List Diagnostic :=
  (runAll jobs options).2.eraseDups

structure Holds (shared : Shared) (options : Options) (sections : List (List Job))
    (held : List Job) : Prop where
  taken_eq : shared.taken = sections.map (distinct options)
  collector_holds : shared.collector.Holds options (held.flatMap findings)

variable {shared : Shared} {options : Options} {sections : List (List Job)} {held : List Job}

theorem holds_start (options : Options) : (start options).Holds options [] [] :=
  ⟨rfl, Collector.holds_new options⟩

/-- A collector drops what an earlier job has reported already, so it makes no
difference that a batch has dropped the repetitions within each job before. -/
theorem Holds.diagnostics_eq (holds : shared.Holds options sections held) :
    shared.collector.diagnostics = distinct options held := by
  rw [holds.collector_holds.diagnostics_eq, Options.report_flatMap, distinct, runAll_eq]

theorem Holds.step_run (holds : shared.Holds options sections held) (job : Job) :
    (shared.step (.run job)).Holds options sections (held ++ [job]) where
  taken_eq := by rw [taken_step_run, holds.taken_eq]
  collector_holds := by
    rw [collector_step_run, List.flatMap_append, List.flatMap_singleton]
    exact holds.collector_holds.foldl_emit job.findings

theorem Holds.step_take (holds : shared.Holds options sections held) :
    (shared.step .take).Holds options (sections ++ [held]) [] where
  taken_eq := by
    rw [taken_step_take, holds.taken_eq, holds.diagnostics_eq, List.map_append,
      List.map_singleton]
  collector_holds := by
    rw [collector_step_take, holds.collector_holds.options_eq]
    exact Collector.holds_new options

theorem Holds.foldl_step (holds : shared.Holds options sections held) (events : List Event) :
    (events.foldl step shared).taken ++ [(events.foldl step shared).collector.diagnostics] =
      (sections ++ Event.sectionsFrom held events).map (distinct options) := by
  induction events generalizing shared sections held with
  | nil =>
      rw [List.foldl_nil, holds.taken_eq, holds.diagnostics_eq, Event.sectionsFrom,
        List.map_append, List.map_singleton]
  | cons event events induction =>
      rw [List.foldl_cons]
      cases event with
      | run job => rw [induction (holds.step_run job), Event.sectionsFrom]
      | take =>
          rw [induction holds.step_take, Event.sectionsFrom, List.append_assoc,
            List.singleton_append]

/-! ## Answers -/

/-- Jobs that are run one after another into one collector leave the declarations
that a batch of them leaves, whatever is taken from the collector in between. The
collector holds the diagnostics of the batch, each where it occurs first. With
takes, each list that is taken, and in the end what the collector holds, are in this
way the diagnostics of a batch of the jobs since the take before. -/
theorem run_eq_batch (options : Options) :
    (∀ jobs : List Job,
        (run options (jobs.map Event.run)).declarations = (runAll jobs options).1 ∧
          (run options (jobs.map Event.run)).taken = [] ∧
          (run options (jobs.map Event.run)).collector.diagnostics =
            (runAll jobs options).2.eraseDups) ∧
      ∀ events : List Event,
        (run options events).declarations =
            (runAll (events.filterMap Event.job?) options).1 ∧
          (run options events).taken ++ [(run options events).collector.diagnostics] =
            (Event.sections events).map fun jobs => (runAll jobs options).2.eraseDups := by
  have declared (events : List Event) : (run options events).declarations =
      (runAll (events.filterMap Event.job?) options).1 := by
    rw [run, declarations_foldl_step _ _ options]
    rfl
  have reported (events : List Event) :
      (run options events).taken ++ [(run options events).collector.diagnostics] =
        (Event.sections events).map (distinct options) :=
    (holds_start options).foldl_step events
  refine ⟨fun jobs => ?_, fun events => ⟨declared events, reported events⟩⟩
  have sameJobs : (jobs.map Event.run).filterMap Event.job? = jobs := by
    simp [List.filterMap_map, Function.comp_def, Event.job?]
  have together := reported (jobs.map Event.run)
  rw [Event.sections, Event.sectionsFrom_map_run, List.nil_append, List.map_singleton] at together
  refine ⟨?_, ?_⟩
  · rw [declared, sameJobs]
  · simpa [List.append_eq_singleton_iff, distinct] using together

example :
    let job : Job :=
      { declaration :=
          { name := "f"
            signature.parameters.parameters :=
              [⟨"n", .ofKeyword .int, false, some (.ofKeyword .string)⟩] }
        site := .ofLine "a.src" 3
        comment := ∅ }
    let told := (job.run {}).2
    told.length = 1 ∧ (runAll [job, job] {}).2 = told ++ told ∧
      (run {} [.run job, .run job]).collector.diagnostics = told ∧
      (run {} [.run job, .take, .run job]).taken = [told] := by
  decide +kernel

end Shared

end ParamTypes.Job
