import ParamTypes.Diagnostic.Finding
import ParamTypes.Options.Basic
import ParamTypes.Proofs.OrderedSet

/-!
What options report of a list of findings, said without a sink: those that the
options allow are rendered, and of equal diagnostics the first stays.

Options only ever take away from a report. What is left is the report of the
default options without the diagnostics that the options refuse
(`report_eq_filter`), so tighter options report a part of what looser ones do.
-/

namespace ParamTypes

namespace Finding

theorem severity_eq_of_code_eq {first second : Finding} (same : first.code = second.code) :
    first.severity = second.severity := by
  rw [severity, severity, issue?, issue?, same]

end Finding

namespace Options

/-- The diagnostics of the findings that the options allow, in their order and
each once. -/
def report (options : Options) (findings : List Finding) : List Diagnostic :=
  ((findings.filter fun finding => options.allows finding.code finding.severity).map
    Finding.render).eraseDups

@[simp] theorem report_nil (options : Options) : options.report [] = [] := rfl

theorem nodup_report (options : Options) (findings : List Finding) :
    (options.report findings).Nodup :=
  OrderedSet.nodup_eraseDups _

theorem mem_report {options : Options} {findings : List Finding}
    {diagnostic : Diagnostic} :
    diagnostic ∈ options.report findings ↔
      ∃ finding ∈ findings,
        options.allows finding.code finding.severity ∧ finding.render = diagnostic := by
  simp [report, and_assoc]

theorem report_append_singleton (options : Options) (findings : List Finding)
    (finding : Finding) :
    options.report (findings ++ [finding]) =
      if options.allows finding.code finding.severity ∧
          finding.render ∉ options.report findings then
        options.report findings ++ [finding.render]
      else
        options.report findings := by
  cases allowed : options.allows finding.code finding.severity with
  | false =>
      simp [report, allowed]
  | true =>
      have known : finding.render ∈ options.report findings ↔
          finding.render ∈ (findings.filter fun other =>
            options.allows other.code other.severity).map Finding.render :=
        List.mem_eraseDups
      simp only [known, true_and]
      rw [report, List.filter_append, List.filter_cons_of_pos (by simpa using allowed),
        List.filter_nil, List.map_append, List.map_singleton,
        OrderedSet.eraseDups_append_singleton]
      by_cases present : finding.render ∈ (findings.filter fun other =>
          options.allows other.code other.severity).map Finding.render
      · rw [if_pos present, if_neg (not_not_intro present), report]
      · rw [if_neg present, if_pos present, report]

theorem report_flatMap (options : Options) (part : α → List Finding) (items : List α) :
    options.report (items.flatMap part) =
      (items.flatMap fun item => options.report (part item)).eraseDups := by
  simp only [report, List.filter_flatMap, List.map_flatMap]
  rw [OrderedSet.eraseDups_flatMap_eraseDups]

/-- A diagnostic shows the code and the severity by which its finding was
allowed, so options may as well look through the report of all findings. -/
theorem report_eq_filter (options : Options) (findings : List Finding) :
    options.report findings =
      (report {} findings).filter fun diagnostic =>
        options.allows diagnostic.code diagnostic.severity := by
  have all : (findings.filter fun finding => allows {} finding.code finding.severity) =
      findings := by
    simp
  rw [report, report, all, ← OrderedSet.eraseDups_filter, List.filter_map]
  rfl

/-! ## Tighter options -/

/-- Options that suppress every code that others suppress, and whose minimum is
no milder than theirs. No minimum is the mildest one. -/
structure Tighter (tight loose : Options) : Prop where
  suppressed : ∀ code, loose.isSuppressed code = true → tight.isSuppressed code = true
  minimum : ∀ least ∈ loose.minimum, ∃ most ∈ tight.minimum, least.rank ≤ most.rank

variable {tight loose : Options}

theorem Tighter.allows_of_allows (tighter : tight.Tighter loose) {code : Code}
    {severity : Severity} (allowed : tight.allows code severity = true) :
    loose.allows code severity = true := by
  rw [allows, Bool.and_eq_true, Bool.not_eq_true', Option.all_eq_true] at allowed
  rcases allowed with ⟨reported, above⟩
  rw [allows, Bool.and_eq_true, Bool.not_eq_true', Option.all_eq_true]
  constructor
  · rw [← Bool.not_eq_true]
    intro isLoose
    exact Bool.false_ne_true (reported.symm.trans (tighter.suppressed code isLoose))
  · intro least isLeast
    rcases tighter.minimum least isLeast with ⟨most, isMost, milder⟩
    have enough : most.rank ≤ severity.rank := by simpa using above most isMost
    simpa using Nat.le_trans milder enough

theorem Tighter.filter_eq_filter_filter (tighter : tight.Tighter loose)
    (diagnostics : List Diagnostic) :
    (diagnostics.filter fun diagnostic =>
        tight.allows diagnostic.code diagnostic.severity) =
      (diagnostics.filter fun diagnostic =>
        loose.allows diagnostic.code diagnostic.severity).filter fun diagnostic =>
          tight.allows diagnostic.code diagnostic.severity := by
  rw [List.filter_filter]
  apply List.filter_congr
  intro diagnostic _
  cases allowed : tight.allows diagnostic.code diagnostic.severity with
  | false => rfl
  | true => rw [tighter.allows_of_allows allowed, Bool.and_self]

end Options

end ParamTypes
