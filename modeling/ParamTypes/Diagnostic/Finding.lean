import ParamTypes.Diagnostic.Basic
import ParamTypes.Diagnostic.Template
import ParamTypes.UnionType

/-!
Findings: diagnostics before their message is written.
-/

namespace ParamTypes

namespace Finding

inductive Argument
  | type (value : UnionType)
  | text (value : String)
  | number (value : Nat)
deriving DecidableEq

def Argument.render : Argument → String
  | .type value => value.text
  | .text value => value
  | .number value => toString value

end Finding

structure Finding where
  code : Code
  site : Span
  arguments : List Finding.Argument
deriving DecidableEq

namespace Finding

def issue? (finding : Finding) : Option Issue :=
  Issue.ofCode? finding.code

/-- The severity of the issue; a code without an issue is a warning. -/
def severity (finding : Finding) : Severity :=
  (finding.issue?.map Issue.severity).getD .warning

def template (finding : Finding) : String :=
  (finding.issue?.map Issue.template).getD "Unknown diagnostic"

def message (finding : Finding) : String :=
  Template.fill finding.template (finding.arguments.map Argument.render)

def render (finding : Finding) : Diagnostic where
  site := finding.site
  message := finding.message
  severity := finding.severity
  code := finding.code

end Finding

end ParamTypes
