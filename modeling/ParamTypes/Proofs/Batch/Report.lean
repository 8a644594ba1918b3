import ParamTypes.Batch
import ParamTypes.Proofs.Diagnostic.Collector
import ParamTypes.Proofs.Reconciliation.Pass

/-!
What a job answers, said without a collector: the declaration that a pass leaves,
and the report of what the pass finds.

Options take part in the report alone. A batch reports job by job, so what they
take away from each report they take away from the whole.
-/

namespace ParamTypes.Job

def findings (job : Job) : List Finding :=
  (job.declaration.findingBlocks job.comment job.site).flatten

theorem run_eq (job : Job) (options : Options) :
    job.run options =
      (job.declaration.merged job.comment, options.report job.findings) := by
  have holds := (Collector.holds_new options).foldl_emit job.findings
  rw [List.nil_append] at holds
  rw [run, Declaration.reconcile_eq, ← findings]
  dsimp only
  rw [holds.take_eq]

/-- A job leaves the declaration as a pass that keeps every finding does, and
reports what its options make of the findings of that pass. No sink has a part in
what becomes of the declaration; each is handed the same findings. -/
theorem run_eq_report [Sink σ] (declaration : Declaration) (site : Span)
    (comment : Comment) (options : Options) (sink : σ) :
    let kept := declaration.reconcile comment site ([] : List Finding)
    run ⟨declaration, site, comment⟩ options = (kept.1, options.report kept.2) ∧
      declaration.reconcile comment site sink = (kept.1, kept.2.foldl emit sink) := by
  intro kept
  have isKept : kept =
      (declaration.merged comment, (declaration.findingBlocks comment site).flatten) := by
    simp only [kept]
    rw [Declaration.reconcile_eq, foldl_emit_list, List.nil_append]
  rw [isKept]
  constructor
  · rw [run_eq, findings]
  · rw [Declaration.reconcile_eq]

/-! ## Batches -/

theorem runAll_eq (jobs : List Job) (options : Options) :
    runAll jobs options =
      (jobs.map fun job => job.declaration.merged job.comment,
        jobs.flatMap fun job => options.report job.findings) := by
  simp [runAll, run_eq, List.flatMap_map, Function.comp_def]

/-- Options change nothing but the diagnostics of a batch, and of these they
leave the ones that they allow. Tighter options leave a part of what looser ones
do. -/
theorem runAll_eq_filter (jobs : List Job) (options : Options) :
    (runAll jobs options).1 = (runAll jobs {}).1 ∧
      (runAll jobs options).2 =
        ((runAll jobs {}).2.filter fun diagnostic =>
          options.allows diagnostic.code diagnostic.severity) ∧
      ∀ tight loose : Options, tight.Tighter loose →
        (runAll jobs tight).2.Sublist (runAll jobs loose).2 := by
  have filtered (any : Options) : (runAll jobs any).2 =
      (runAll jobs {}).2.filter fun diagnostic =>
        any.allows diagnostic.code diagnostic.severity := by
    have ofJob : (fun job : Job => any.report job.findings) = fun job =>
        (Options.report {} job.findings).filter fun diagnostic =>
          any.allows diagnostic.code diagnostic.severity := by
      funext job
      exact any.report_eq_filter job.findings
    rw [runAll_eq, runAll_eq, ofJob, List.filter_flatMap]
  refine ⟨?_, filtered options, ?_⟩
  · rw [runAll_eq, runAll_eq]
  · intro tight loose tighter
    rw [filtered tight, filtered loose, tighter.filter_eq_filter_filter]
    exact List.filter_sublist

theorem runAll_sublist_of_suppressed_default :
    let job : Job :=
      { declaration :=
          { name := "f"
            signature.parameters.parameters :=
              [⟨"n", .ofKeyword .int, false, some (.ofKeyword .string)⟩,
                ⟨"rest", .ofKeyword .int, true, none⟩] }
        site := .ofLine "a.src" 3
        comment := .ofParameters [⟨"n", ∅, false⟩, ⟨"rest", ∅, false⟩] }
    let loose : Options := { minimum := some .suggestion }
    let tight : Options :=
      { suppressed := .singleton Issue.typeMismatchDefault.code, minimum := some .warning }
    tight.Tighter loose ∧
      (runAll [job] loose).2.map Diagnostic.code =
        [Issue.typeMismatchDefault.code, Issue.typeMismatchVariadicParam.code] ∧
      (runAll [job] tight).2.map Diagnostic.code = [Issue.typeMismatchVariadicParam.code] ∧
      (runAll [job] tight).2.Sublist (runAll [job] loose).2 := by
  intro job loose tight
  have tighter : tight.Tighter loose := by
    constructor
    · intro code suppressed
      exact absurd suppressed (by simp [loose, Options.isSuppressed])
    · intro least isLeast
      rcases Option.mem_some.mp isLeast with rfl
      exact ⟨.warning, rfl, by decide⟩
  refine ⟨tighter, by decide +kernel, by decide +kernel, ?_⟩
  exact (runAll_eq_filter [job] {}).2.2 tight loose tighter

end ParamTypes.Job
