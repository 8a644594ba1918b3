import ParamTypes.Diagnostic.Issue
import ParamTypes.OrderedSet

/-!
The options of an analysis: which diagnostics are reported.
-/

namespace ParamTypes

structure Options where
  suppressed : OrderedSet Code := ∅
  minimum : Option Severity := none
deriving DecidableEq

namespace Options

instance : Inhabited Options := ⟨{}⟩

def suppress (options : Options) (code : Code) : Options :=
  { options with suppressed := options.suppressed.insert code }

def isSuppressed (options : Options) (code : Code) : Bool :=
  code ∈ options.suppressed

@[simp] theorem isSuppressed_suppress (options : Options) (code other : Code) :
    (options.suppress code).isSuppressed other =
      (options.isSuppressed other || other == code) := by
  simp [isSuppressed, suppress, BEq.beq]

/-- Whether a diagnostic is reported: its code is not suppressed and its
severity is no milder than the minimum. -/
def allows (options : Options) (code : Code) (severity : Severity) : Bool :=
  !options.isSuppressed code &&
    options.minimum.all fun minimum => minimum.rank ≤ severity.rank

@[simp] theorem allows_default (code : Code) (severity : Severity) :
    allows {} code severity = true := by
  simp [allows, isSuppressed]

end Options

end ParamTypes
