import ParamTypes.Batch

/-!
A job in steps, so that others may be worked on in between.

A task begins with a collector of its own, reconciles one parameter at each turn,
in place, and ends by taking from the collector. It never begins again. Two facts
say all about a turn: it leaves the outcome of the task what it was
(`outcome_step`), and it brings the end nearer by one (`turnsLeft_step`).
-/

namespace ParamTypes

/-! ## The rest of a pass -/

namespace Declaration

def visits (declaration : Declaration) : Nat :=
  if declaration.isInternal then 0 else declaration.parameters.length

def visited? (declaration : Declaration) (offset : Nat) : Option Parameter :=
  if declaration.isInternal then none else declaration.parameters[offset]?

def replace (declaration : Declaration) (offset : Nat) (parameter : Parameter) :
    Declaration :=
  declaration.setParameters (declaration.parameters.set offset parameter)

variable {declaration : Declaration} {offset : Nat} {parameter : Parameter}

theorem visited?_eq_none_iff :
    declaration.visited? offset = none ↔ declaration.visits ≤ offset := by
  cases trusted : declaration.isInternal <;> simp [visited?, visits, trusted]

theorem visited?_eq_some_iff :
    declaration.visited? offset = some parameter ↔
      declaration.isInternal = false ∧ declaration.parameters[offset]? = some parameter := by
  cases trusted : declaration.isInternal <;> simp [visited?, trusted]

@[simp] theorem parameters_replace (declaration : Declaration) (offset : Nat)
    (parameter : Parameter) :
    (declaration.replace offset parameter).parameters =
      declaration.parameters.set offset parameter := rfl

@[simp] theorem isInternal_replace (declaration : Declaration) (offset : Nat)
    (parameter : Parameter) :
    (declaration.replace offset parameter).isInternal = declaration.isInternal := rfl

@[simp] theorem setParameters_replace (declaration : Declaration) (offset : Nat)
    (parameter : Parameter) (parameters : List Parameter) :
    (declaration.replace offset parameter).setParameters parameters =
      declaration.setParameters parameters := rfl

@[simp] theorem setParameters_parameters (declaration : Declaration) :
    declaration.setParameters declaration.parameters = declaration := rfl

@[simp] theorem visits_replace (declaration : Declaration) (offset : Nat)
    (parameter : Parameter) :
    (declaration.replace offset parameter).visits = declaration.visits := by
  simp [visits]

variable [Sink σ]

/-- What is left of a pass when all parameters before an offset are
reconciled. -/
def reconcileRest (declaration : Declaration) (comment : Comment) (site : Span)
    (offset : Nat) (sink : σ) : Declaration × σ :=
  if declaration.isInternal then
    (declaration, sink)
  else
    let (others, told) :=
      Parameter.reconcileFrom comment site offset (declaration.parameters.drop offset) sink
    (declaration.setParameters (declaration.parameters.take offset ++ others), told)

theorem reconcileRest_zero (declaration : Declaration) (comment : Comment) (site : Span)
    (sink : σ) :
    declaration.reconcileRest comment site 0 sink =
      declaration.reconcile comment site sink := by
  rw [reconcileRest, reconcile, List.drop_zero, List.take_zero]
  rfl

theorem reconcileRest_of_visited?_eq_none (last : declaration.visited? offset = none)
    (comment : Comment) (site : Span) (sink : σ) :
    declaration.reconcileRest comment site offset sink = (declaration, sink) := by
  rw [visited?_eq_none_iff, visits] at last
  cases trusted : declaration.isInternal with
  | true => rw [reconcileRest, if_pos trusted]
  | false =>
      rw [trusted, if_neg Bool.false_ne_true] at last
      rw [reconcileRest, trusted, if_neg Bool.false_ne_true, List.drop_of_length_le last,
        List.take_of_length_le last, Parameter.reconcileFrom]
      simp

theorem reconcileRest_replace (isNext : declaration.visited? offset = some parameter)
    (comment : Comment) (site : Span) (sink : σ) :
    (declaration.replace offset (parameter.reconcile offset comment site sink).1).reconcileRest
        comment site (offset + 1) (parameter.reconcile offset comment site sink).2 =
      declaration.reconcileRest comment site offset sink := by
  rcases visited?_eq_some_iff.mp isNext with ⟨trusted, atOffset⟩
  rcases List.getElem?_eq_some_iff.mp atOffset with ⟨inside, isParameter⟩
  have upTo (visited : Parameter) :
      (declaration.parameters.set offset visited).take (offset + 1) =
        declaration.parameters.take offset ++ [visited] := by
    rw [List.take_succ_eq_append_getElem (by simpa using inside),
      List.take_set_of_le (Nat.le_refl offset), List.getElem_set_self]
  have beyond (visited : Parameter) :
      (declaration.parameters.set offset visited).drop (offset + 1) =
        declaration.parameters.drop (offset + 1) :=
    List.drop_set_of_lt (Nat.lt_succ_self offset)
  have fromHere : declaration.parameters.drop offset =
      parameter :: declaration.parameters.drop (offset + 1) := by
    rw [List.drop_eq_getElem_cons inside, isParameter]
  simp only [reconcileRest, isInternal_replace, trusted, parameters_replace, upTo, beyond,
    fromHere, Parameter.reconcileFrom, setParameters_replace, List.append_assoc,
    List.singleton_append, Bool.false_eq_true, if_false]

end Declaration

/-! ## Tasks -/

inductive Job.Task.Stage
  | waiting
  | running (offset : Nat) (collector : Collector)
  | finished (diagnostics : List Diagnostic)

structure Job.Task where
  job : Job
  stage : Job.Task.Stage := .waiting

namespace Job.Task

def step (options : Options) (task : Task) : Task :=
  match task.stage with
  | .waiting => { task with stage := .running 0 (Collector.new options) }
  | .running offset collector =>
      match task.job.declaration.visited? offset with
      | none => { task with stage := .finished collector.take.1 }
      | some parameter =>
          let (merged, told) :=
            parameter.reconcile offset task.job.comment task.job.site collector
          { job := { task.job with declaration := task.job.declaration.replace offset merged }
            stage := .running (offset + 1) told }
  | .finished _ => task

def result? (task : Task) : Option (Declaration × List Diagnostic) :=
  match task.stage with
  | .finished diagnostics => some (task.job.declaration, diagnostics)
  | _ => none

/-- What a task answers when it is worked on to its end. -/
def outcome (options : Options) (task : Task) : Declaration × List Diagnostic :=
  match task.stage with
  | .waiting => task.job.run options
  | .running offset collector =>
      let (declaration, told) :=
        task.job.declaration.reconcileRest task.job.comment task.job.site offset collector
      (declaration, told.take.1)
  | .finished diagnostics => (task.job.declaration, diagnostics)

def turnsLeft (task : Task) : Nat :=
  match task.stage with
  | .waiting => task.job.declaration.visits + 2
  | .running offset _ => task.job.declaration.visits - offset + 1
  | .finished _ => 0

theorem outcome_step (options : Options) (task : Task) :
    (task.step options).outcome options = task.outcome options := by
  rcases task with ⟨job, stage⟩
  cases stage with
  | waiting =>
      simp only [step, outcome, Declaration.reconcileRest_zero]
      rfl
  | running offset collector =>
      cases next : job.declaration.visited? offset with
      | none =>
          simp only [step, outcome, next]
          rw [Declaration.reconcileRest_of_visited?_eq_none next]
      | some parameter =>
          simp only [step, outcome, next]
          rw [Declaration.reconcileRest_replace next]
  | finished diagnostics => rfl

theorem turnsLeft_step (options : Options) (task : Task) :
    (task.step options).turnsLeft = task.turnsLeft - 1 := by
  rcases task with ⟨job, stage⟩
  cases stage with
  | waiting => rfl
  | running offset collector =>
      cases next : job.declaration.visited? offset with
      | none =>
          have last := Declaration.visited?_eq_none_iff.mp next
          simp only [step, turnsLeft, next]
          omega
      | some parameter =>
          have inside : ¬ job.declaration.visits ≤ offset := by
            rw [← Declaration.visited?_eq_none_iff, next]
            exact Option.some_ne_none parameter
          simp only [step, turnsLeft, next, Declaration.visits_replace]
          omega
  | finished diagnostics => rfl

theorem result?_eq (options : Options) (task : Task) :
    task.result? = if task.turnsLeft = 0 then some (task.outcome options) else none := by
  rcases task with ⟨job, stage⟩
  cases stage <;> rfl

end Job.Task

end ParamTypes
