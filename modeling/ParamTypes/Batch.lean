import ParamTypes.Diagnostic.Collector
import ParamTypes.Reconciliation

/-!
Reconciling one declaration, or a batch of them, under options.

Every job has a collector of its own, so no job sees what another one reports.
-/

namespace ParamTypes

structure Job where
  declaration : Declaration
  site : Span
  comment : Comment
deriving DecidableEq

namespace Job

def run (job : Job) (options : Options) : Declaration × List Diagnostic :=
  let (declaration, collector) :=
    job.declaration.reconcile job.comment job.site (Collector.new options)
  (declaration, collector.take.1)

/-- The declarations of all jobs in their order, and the diagnostics of the
first job, of the second, and so on. -/
def runAll (jobs : List Job) (options : Options) : List Declaration × List Diagnostic :=
  let results := jobs.map (·.run options)
  (results.map Prod.fst, results.flatMap Prod.snd)

theorem runAll_append (first second : List Job) (options : Options) :
    runAll (first ++ second) options =
      ((runAll first options).1 ++ (runAll second options).1,
        (runAll first options).2 ++ (runAll second options).2) := by
  simp [runAll]

end Job

end ParamTypes
