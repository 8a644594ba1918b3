/-!
Severities of diagnostics and their order.
-/

namespace ParamTypes

/-- How serious a diagnostic is, from the mildest. -/
inductive Severity
  | message
  | suggestion
  | warning
  | error
deriving DecidableEq, Repr

namespace Severity

def rank : Severity → Nat
  | message => 0
  | suggestion => 1
  | warning => 2
  | error => 3

def text : Severity → String
  | message => "message"
  | suggestion => "suggestion"
  | warning => "warning"
  | error => "error"

def all : List Severity :=
  [message, suggestion, warning, error]

def ofText? (text : String) : Option Severity :=
  all.find? (·.text == text)

@[simp] theorem ofText?_text (severity : Severity) :
    ofText? severity.text = some severity := by
  cases severity <;> decide

end Severity

end ParamTypes
