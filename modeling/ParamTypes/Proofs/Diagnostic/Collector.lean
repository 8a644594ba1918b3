import Mathlib.Data.List.DropRight
import ParamTypes.Diagnostic.Collector
import ParamTypes.Proofs.Diagnostic.Report

/-!
The collector through all of its life: whatever is emitted and taken, it holds
the report of the findings that came since the last take.

The collector tells findings apart by keys, which leave the severity out and
outlive no take. One invariant carries all of this: the keys that were seen are
those of the diagnostics that are kept (`KeysMatch`).
-/

namespace ParamTypes.Collector

/-! ## Keys -/

theorem key_eq_key_iff {first second : Finding} :
    key first = key second ↔ first.render = second.render := by
  constructor
  · intro same
    have parts := Key.mk.inj same
    have severities := Finding.severity_eq_of_code_eq parts.1
    rw [Finding.render, Finding.render, parts.1, parts.2.1, parts.2.2, severities]
  · intro same
    have parts := Diagnostic.mk.inj same
    rw [key, key, parts.1, parts.2.1, parts.2.2.2]

/-- A finding counts as seen exactly when its diagnostic is kept. -/
def KeysMatch (collector : Collector) : Prop :=
  ∀ finding, key finding ∈ collector.seen ↔ finding.render ∈ collector.diagnostics

theorem keysMatch_new (options : Options) : (new options).KeysMatch := by
  intro finding
  simp [new]

variable {collector : Collector}

theorem KeysMatch.collect (matched : collector.KeysMatch) (finding : Finding) :
    (collector.collect finding).KeysMatch := by
  unfold Collector.collect
  split
  · exact matched
  · split
    · exact matched
    · intro other
      simp only [OrderedSet.mem_insert, matched other, key_eq_key_iff, List.mem_append,
        List.mem_singleton]

theorem KeysMatch.diagnostics_collect (matched : collector.KeysMatch) (finding : Finding) :
    (collector.collect finding).diagnostics =
      if collector.options.allows finding.code finding.severity ∧
          finding.render ∉ collector.diagnostics then
        collector.diagnostics ++ [finding.render]
      else
        collector.diagnostics := by
  rw [Collector.collect]
  cases collector.options.allows finding.code finding.severity with
  | false => simp
  | true =>
      by_cases present : finding.render ∈ collector.diagnostics
      · have seen : key finding ∈ collector.seen := (matched finding).mpr present
        simp [present, seen]
      · have unseen : key finding ∉ collector.seen := fun seen =>
          present ((matched finding).mp seen)
        simp [present, unseen]

/-! ## Findings since the last take -/

structure Holds (collector : Collector) (options : Options) (findings : List Finding) :
    Prop where
  options_eq : collector.options = options
  keysMatch : collector.KeysMatch
  diagnostics_eq : collector.diagnostics = options.report findings

variable {options : Options} {findings : List Finding}

theorem holds_new (options : Options) : (new options).Holds options [] :=
  ⟨rfl, keysMatch_new options, rfl⟩

theorem Holds.collect (holds : collector.Holds options findings) (finding : Finding) :
    (collector.collect finding).Holds options (findings ++ [finding]) where
  options_eq := by rw [options_collect, holds.options_eq]
  keysMatch := holds.keysMatch.collect finding
  diagnostics_eq := by
    rw [holds.keysMatch.diagnostics_collect, holds.options_eq, holds.diagnostics_eq,
      Options.report_append_singleton]

theorem Holds.foldl_emit (holds : collector.Holds options findings)
    (later : List Finding) :
    (later.foldl emit collector).Holds options (findings ++ later) := by
  induction later generalizing collector findings with
  | nil => simpa using holds
  | cons finding later induction =>
      rw [List.foldl_cons, List.append_cons]
      exact induction (holds.collect finding)

theorem Holds.take_eq (holds : collector.Holds options findings) :
    collector.take = (options.report findings, new options) := by
  rw [take, holds.diagnostics_eq, holds.options_eq]

/-! ## Histories -/

inductive Call
  | emit (finding : Finding)
  | take

namespace Call

def isTake : Call → Bool
  | emit _ => false
  | take => true

def finding? : Call → Option Finding
  | emit finding => some finding
  | take => none

/-- The findings that were emitted behind the last take, or all of them if there
was none. -/
def sinceTake (calls : List Call) : List Finding :=
  (calls.rtakeWhile (!·.isTake)).filterMap finding?

example (first second third : Finding) :
    sinceTake [emit first, take, emit second, emit third] = [second, third] := rfl

@[simp] theorem sinceTake_append_emit (calls : List Call) (finding : Finding) :
    sinceTake (calls ++ [emit finding]) = sinceTake calls ++ [finding] := by
  rw [sinceTake, List.rtakeWhile_concat_pos _ _ _ (by rfl), List.filterMap_append]
  rfl

@[simp] theorem sinceTake_append_take (calls : List Call) :
    sinceTake (calls ++ [take]) = [] := by
  rw [sinceTake, List.rtakeWhile_concat_neg _ _ _ (by decide), List.filterMap_nil]

end Call

def after (collector : Collector) : Call → Collector
  | .emit finding => emit collector finding
  | .take => collector.take.2

def run (options : Options) (calls : List Call) : Collector :=
  calls.foldl after (new options)

theorem holds_run (options : Options) (calls : List Call) :
    (run options calls).Holds options (Call.sinceTake calls) := by
  -- What came last decides, so the history is taken apart at its end.
  induction calls using List.reverseRecOn with
  | nil => exact holds_new options
  | append_singleton calls call induction =>
      have next : run options (calls ++ [call]) = (run options calls).after call := by
        simp [run]
      rw [next]
      cases call with
      | emit finding =>
          rw [Call.sinceTake_append_emit]
          exact induction.collect finding
      | take =>
          rw [Call.sinceTake_append_take, after, induction.take_eq]
          exact holds_new options

/-- At every moment a collector holds the report of the findings since the last
take: a diagnostic of each of them that is allowed, none of them twice. A finding
that comes next is kept unless it is not allowed or its diagnostic is there
already. A take hands the report over, and whatever follows it goes as on a new
collector. -/
theorem diagnostics_run (options : Options) (calls : List Call) :
    let collector := run options calls
    let report := options.report (Call.sinceTake calls)
    collector.diagnostics = report ∧
      collector.diagnostics.Nodup ∧
      (∀ diagnostic, diagnostic ∈ collector.diagnostics ↔
        ∃ finding ∈ Call.sinceTake calls,
          options.allows finding.code finding.severity ∧ finding.render = diagnostic) ∧
      (∀ finding,
        (run options (calls ++ [.emit finding])).diagnostics =
          if options.allows finding.code finding.severity ∧ finding.render ∉ report then
            report ++ [finding.render]
          else
            report) ∧
      collector.take = (report, new options) ∧
      ∀ later, run options (calls ++ .take :: later) = run options later := by
  intro collector report
  have holds := holds_run options calls
  refine ⟨holds.diagnostics_eq, ?_, ?_, ?_, holds.take_eq, ?_⟩
  · rw [holds.diagnostics_eq]
    exact options.nodup_report _
  · intro diagnostic
    rw [holds.diagnostics_eq, Options.mem_report]
  · intro finding
    rw [(holds_run options (calls ++ [Call.emit finding])).diagnostics_eq,
      Call.sinceTake_append_emit, Options.report_append_singleton]
  · intro later
    have taken : collector.after .take = new options := by rw [after, holds.take_eq]
    rw [run, List.foldl_append, List.foldl_cons, ← run, taken, run]

end ParamTypes.Collector
