import ParamTypes.Proofs.Batch.Shared
import ParamTypes.Proofs.Reconciliation.Findings

/-!
What reconciliation leaves alone: all of a declaration but the types of its
parameters, and of these the atoms that are declared. An internal declaration is
left alone as a whole, and nothing is reported about it, whatever other
declarations are reconciled along with it.
-/

namespace ParamTypes

/-! ## Types -/

namespace UnionType

theorem prefix_union (first second : UnionType) :
    first.toList <+: (first ∪ second).toList :=
  first.prefix_insertMany second.toList

theorem prefix_withDefault (known default : UnionType) :
    known.toList <+: (known.withDefault default).toList := by
  by_cases untyped : known = ∅
  · rw [untyped]
    exact List.nil_prefix
  · have typed : ¬ known.isEmpty = true := by simpa using untyped
    rw [withDefault, if_neg typed, if_neg typed]
    split
    · exact prefix_union known null
    · exact prefix_union known default

/-- The declared atoms come first, in their order. Where another type takes the
place of the declared one, no atom is declared. -/
theorem prefix_merged (declared : UnionType) (documented? default? : Option UnionType) :
    declared.toList <+: (declared.merged documented? default?).toList := by
  by_cases untyped : declared = ∅
  · rw [untyped]
    exact List.nil_prefix
  · have kept := beforeDefault_of_ne_empty untyped documented?
    cases default? with
    | none =>
        have same : declared.merged documented? none = declared := by rw [merged, kept]
        exact ⟨[], by rw [same, List.append_nil]⟩
    | some default =>
        rw [merged, kept]
        exact prefix_withDefault declared default

end UnionType

/-! ## Parameters -/

/-- A parameter that differs from an earlier one at most in further atoms. -/
structure Parameter.Extends (later earlier : Parameter) : Prop where
  name_eq : later.name = earlier.name
  isVariadic_eq : later.isVariadic = earlier.isVariadic
  defaultType_eq : later.defaultType = earlier.defaultType
  type_prefix : earlier.type.toList <+: later.type.toList

namespace Parameter

theorem Extends.refl (parameter : Parameter) : parameter.Extends parameter :=
  ⟨rfl, rfl, rfl, List.prefix_refl _⟩

theorem extends_merged (parameter : Parameter) (documented? : Option DocParameter) :
    (parameter.merged documented?).Extends parameter where
  name_eq := rfl
  isVariadic_eq := rfl
  defaultType_eq := rfl
  type_prefix := parameter.type.prefix_merged _ _

end Parameter

/-! ## Declarations -/

/-- A declaration that differs from an earlier one at most in further atoms of
its parameters, which are the same in number and order. -/
structure Declaration.Extends (later earlier : Declaration) : Prop where
  name_eq : later.name = earlier.name
  kind_eq : later.kind = earlier.kind
  isInternal_eq : later.isInternal = earlier.isInternal
  flags_eq : later.signature.flags = earlier.signature.flags
  required_eq : later.signature.parameters.required = earlier.signature.parameters.required
  optional_eq : later.signature.parameters.optional = earlier.signature.parameters.optional
  parameters_extend : List.Forall₂ Parameter.Extends later.parameters earlier.parameters

namespace Declaration

theorem Extends.refl (declaration : Declaration) : declaration.Extends declaration :=
  ⟨rfl, rfl, rfl, rfl, rfl, rfl, List.forall₂_same.mpr fun parameter _ => .refl parameter⟩

theorem extends_setParameters {declaration : Declaration} {parameters : List Parameter}
    (extend : List.Forall₂ Parameter.Extends parameters declaration.parameters) :
    (declaration.setParameters parameters).Extends declaration :=
  ⟨rfl, rfl, rfl, rfl, rfl, rfl, extend⟩

theorem extends_merged (declaration : Declaration) (comment : Comment) :
    (declaration.merged comment).Extends declaration := by
  by_cases trusted : declaration.isInternal
  · rw [merged_of_isInternal trusted]
    exact .refl declaration
  · rw [merged, if_neg trusted]
    apply extends_setParameters
    rw [List.forall₂_iff_get]
    constructor
    · exact List.length_mapIdx
    · intro position isLater isEarlier
      simp only [List.get_eq_getElem, List.getElem_mapIdx]
      exact Parameter.extends_merged _ _

end Declaration

/-! ## Jobs -/

namespace Job

def isInternal (job : Job) : Bool :=
  job.declaration.isInternal

def Leaves (job : Job) (later : Declaration) : Prop :=
  later.Extends job.declaration ∧ (job.isInternal → later = job.declaration)

theorem leaves_merged (job : Job) : job.Leaves (job.declaration.merged job.comment) :=
  ⟨job.declaration.extends_merged job.comment, fun trusted =>
    Declaration.merged_of_isInternal trusted job.comment⟩

theorem findings_of_isInternal {job : Job} (trusted : job.isInternal) : job.findings = [] := by
  rw [findings, Declaration.findingBlocks_eq_nil trusted, List.flatten_nil]

theorem run_of_isInternal {job : Job} (trusted : job.isInternal) (options : Options) :
    job.run options = (job.declaration, []) := by
  rw [run_eq, findings_of_isInternal trusted, Declaration.merged_of_isInternal trusted]
  rfl

theorem leaves_runAll (jobs : List Job) (options : Options) :
    List.Forall₂ Leaves jobs (runAll jobs options).1 := by
  rw [runAll_eq, List.forall₂_map_right_iff, List.forall₂_same]
  exact fun job _ => job.leaves_merged

theorem diagnostics_runAll_filter (jobs : List Job) (options : Options) :
    (runAll (jobs.filter (!·.isInternal)) options).2 = (runAll jobs options).2 := by
  induction jobs with
  | nil => rfl
  | cons job jobs induction =>
      rw [← List.singleton_append, List.filter_append, runAll_append, runAll_append, induction]
      cases trusted : job.isInternal with
      | true => simp [trusted, runAll, run_of_isInternal trusted]
      | false => simp [trusted]

namespace Event

def isInternal : Event → Bool
  | run job => job.isInternal
  | take => false

end Event

namespace Shared

structure ShowsLike (first second : Shared) : Prop where
  taken_eq : first.taken = second.taken
  collector_eq : first.collector = second.collector

variable {first second : Shared}

theorem ShowsLike.step (alike : first.ShowsLike second) (event : Event) :
    (first.step event).ShowsLike (second.step event) := by
  cases event with
  | run job =>
      constructor
      · rw [taken_step_run, taken_step_run, alike.taken_eq]
      · rw [collector_step_run, collector_step_run, alike.collector_eq]
  | take =>
      constructor
      · rw [taken_step_take, taken_step_take, alike.taken_eq, alike.collector_eq]
      · rw [collector_step_take, collector_step_take, alike.collector_eq]

theorem ShowsLike.step_of_isInternal (alike : first.ShowsLike second) {event : Event}
    (trusted : event.isInternal) : first.ShowsLike (second.step event) := by
  cases event with
  | run job =>
      constructor
      · rw [taken_step_run, alike.taken_eq]
      · rw [collector_step_run, findings_of_isInternal trusted, List.foldl_nil,
          alike.collector_eq]
  | take => cases trusted

theorem ShowsLike.foldl_step (alike : first.ShowsLike second) (events : List Event) :
    ((events.filter (!·.isInternal)).foldl Shared.step first).ShowsLike
      (events.foldl Shared.step second) := by
  induction events generalizing first second with
  | nil => exact alike
  | cons event events induction =>
      cases trusted : event.isInternal with
      | true =>
          rw [List.filter_cons_of_neg (by simp [trusted]), List.foldl_cons]
          exact induction (alike.step_of_isInternal trusted)
      | false =>
          rw [List.filter_cons_of_pos (by simp [trusted]), List.foldl_cons, List.foldl_cons]
          exact induction (alike.step event)

end Shared

end Job

/-! ## Reconciled declarations -/

/-- Reconciliation adds atoms behind the declared ones of each parameter, and all
else of a declaration stays as it is. An internal declaration is returned as it was,
and the sink too. So it is with every declaration of a batch, and with every one of
those that share a collector: the jobs of internal declarations could be left out
without a difference to any other report. -/
theorem Declaration.reconcile_extends [Sink σ] (declaration : Declaration)
    (comment : Comment) (site : Span) (sink : σ) (options : Options) (jobs : List Job)
    (events : List Job.Event) :
    (declaration.reconcile comment site sink).1.Extends declaration ∧
      (declaration.isInternal →
        declaration.reconcile comment site sink = (declaration, sink)) ∧
      (List.Forall₂ Job.Leaves jobs (Job.runAll jobs options).1 ∧
        (∀ job ∈ jobs, job.isInternal → job.run options = (job.declaration, [])) ∧
        (Job.runAll (jobs.filter (!·.isInternal)) options).2 = (Job.runAll jobs options).2) ∧
      let shared := Job.Shared.run options events
      let others := Job.Shared.run options (events.filter (!·.isInternal))
      List.Forall₂ Job.Leaves (events.filterMap Job.Event.job?) shared.declarations ∧
        others.taken = shared.taken ∧ others.collector = shared.collector := by
  have seen : (Job.Shared.run options (events.filter (!·.isInternal))).ShowsLike
      (Job.Shared.run options events) :=
    Job.Shared.ShowsLike.foldl_step ⟨rfl, rfl⟩ events
  refine ⟨?_, ?_, ⟨Job.leaves_runAll jobs options, ?_, ?_⟩, ?_, seen.taken_eq,
    seen.collector_eq⟩
  · rw [reconcile_eq]
    exact declaration.extends_merged comment
  · intro trusted
    exact reconcile_of_isInternal trusted comment site sink
  · intro job _ trusted
    exact Job.run_of_isInternal trusted options
  · exact Job.diagnostics_runAll_filter jobs options
  · rw [Job.Shared.run, Job.Shared.declarations_foldl_step _ events options]
    exact Job.leaves_runAll _ options

theorem Declaration.reconcile_extends_internal :
    let parameters : List Parameter := [⟨"rest", ∅, true, some (.ofKeyword .int)⟩]
    let trusted : Declaration :=
      { name := "printf", isInternal := true
        signature := { flags := ⟨2⟩, parameters := { parameters, required := 7 } } }
    let checked : Declaration := { trusted with name := "write", isInternal := false }
    let comment := Comment.ofParameters [⟨"rest", .ofKeyword .string, false⟩]
    let site := Span.ofLine "a.src" 3
    let jobs : List Job := [⟨trusted, site, comment⟩, ⟨checked, site, comment⟩]
    trusted.reconcile comment site ([] : List Finding) = (trusted, []) ∧
      (Job.runAll jobs {}).1.map (·.parameters.map (·.type.toList)) =
        [[[]], [[.keyword .string, .keyword .int]]] ∧
      (Job.runAll jobs {}).2.length = 2 ∧
      (Job.runAll jobs {}).2 = (Job.runAll [⟨checked, site, comment⟩] {}).2 := by
  intro parameters trusted checked comment site jobs
  have extended := trusted.reconcile_extends comment site ([] : List Finding) {} jobs
    (jobs.map .run)
  exact ⟨extended.2.1 rfl, by decide +kernel, by decide +kernel, extended.2.2.1.2.2.symm⟩

end ParamTypes
