/-!
What can be wrong with a type expression.
-/

namespace ParamTypes.TypeExpr

/-- The first fault of a type expression in reading order. The brackets of an
expression are read before its members. -/
inductive Fault
  | emptyExpression
  | unbalancedBrackets
  | emptyMember
  | malformedGeneric
  | invalidName
deriving DecidableEq, Repr

namespace Fault

def text : Fault → String
  | emptyExpression => "empty type expression"
  | unbalancedBrackets => "unbalanced brackets"
  | emptyMember => "empty union member"
  | malformedGeneric => "malformed generic type"
  | invalidName => "invalid type name"

end Fault

/-- A refused type expression, kept as it was given, with its fault. -/
structure Error where
  source : String
  fault : Fault
deriving DecidableEq, Repr

namespace Error

def message (error : Error) : String :=
  "invalid type expression '" ++ error.source ++ "': " ++ error.fault.text

example : message ⟨" int|", .emptyMember⟩ =
    "invalid type expression ' int|': empty union member" := by decide

end Error

end ParamTypes.TypeExpr
