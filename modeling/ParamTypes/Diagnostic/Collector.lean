import ParamTypes.Diagnostic.Sink
import ParamTypes.Options.Basic

/-!
The collector: a sink that renders what the options allow, each diagnostic
once.
-/

namespace ParamTypes

namespace Collector

structure Key where
  code : Code
  site : Span
  message : String
deriving DecidableEq, Repr

end Collector

structure Collector where
  options : Options
  seen : OrderedSet Collector.Key
  diagnostics : List Diagnostic

namespace Collector

def new (options : Options) : Collector :=
  ⟨options, ∅, []⟩

def key (finding : Finding) : Key :=
  ⟨finding.code, finding.site, finding.message⟩

/-- Keep a finding unless the options withhold it or its like was kept. -/
def collect (collector : Collector) (finding : Finding) : Collector :=
  if !collector.options.allows finding.code finding.severity then
    collector
  else if key finding ∈ collector.seen then
    collector
  else
    { collector with
      seen := collector.seen.insert (key finding)
      diagnostics := collector.diagnostics ++ [finding.render] }

instance : Sink Collector := ⟨collect⟩

@[simp] theorem options_collect (collector : Collector) (finding : Finding) :
    (collector.collect finding).options = collector.options := by
  unfold collect
  split
  · rfl
  · split <;> rfl

def take (collector : Collector) : List Diagnostic × Collector :=
  (collector.diagnostics, new collector.options)

end Collector

end ParamTypes
