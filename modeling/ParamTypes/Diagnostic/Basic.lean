import ParamTypes.Diagnostic.Issue
import ParamTypes.Span

/-!
Rendered diagnostics.
-/

namespace ParamTypes

structure Diagnostic where
  site : Span
  message : String
  severity : Severity
  code : Code
deriving DecidableEq, Repr

end ParamTypes
