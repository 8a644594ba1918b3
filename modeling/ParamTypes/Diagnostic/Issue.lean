import ParamTypes.Diagnostic.Severity

/-!
The registry of issues. An issue can be named by its code or by its name.
-/

namespace ParamTypes

/-- The number of an issue. Numbers without an issue may occur. -/
abbrev Code := UInt32

inductive Issue
  | typeMismatchDefault
  | typeMismatchVariadicComment
  | typeMismatchVariadicParam
deriving DecidableEq, Repr

namespace Issue

def all : List Issue :=
  [typeMismatchDefault, typeMismatchVariadicComment, typeMismatchVariadicParam]

def code : Issue → Code
  | typeMismatchDefault => 10005
  | typeMismatchVariadicComment => 10021
  | typeMismatchVariadicParam => 10022

def name : Issue → String
  | typeMismatchDefault => "TypeMismatchDefault"
  | typeMismatchVariadicComment => "TypeMismatchVariadicComment"
  | typeMismatchVariadicParam => "TypeMismatchVariadicParam"

def severity : Issue → Severity
  | typeMismatchDefault | typeMismatchVariadicComment | typeMismatchVariadicParam =>
      .warning

def template : Issue → String
  | typeMismatchDefault => "Default value for \x7b0\x7d \x7b1\x7d can't be \x7b2\x7d"
  | typeMismatchVariadicComment =>
      "\x7b0\x7d is variadic in comment, but not variadic in param (\x7b1\x7d)"
  | typeMismatchVariadicParam =>
      "\x7b0\x7d is not variadic in comment, but variadic in param (\x7b1\x7d)"

def ofCode? (code : Code) : Option Issue :=
  all.find? (·.code == code)

def ofName? (name : String) : Option Issue :=
  all.find? (·.name == name)

@[simp] theorem ofCode?_code (issue : Issue) : ofCode? issue.code = some issue := by
  cases issue <;> decide

@[simp] theorem ofName?_name (issue : Issue) : ofName? issue.name = some issue := by
  cases issue <;> decide

end Issue

end ParamTypes
