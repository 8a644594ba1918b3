import ParamTypes.UnionType

/-!
The written form that declared and documented parameters share.
-/

namespace ParamTypes

/-- A type unless nothing is known of it, dots if the parameter is variadic,
and the name. -/
def declarator (type : UnionType) (isVariadic : Bool) (name : String) : String :=
  (if type.isEmpty then "" else type.text ++ " ") ++
    (if isVariadic then "..." else "") ++ name

example : declarator .null true "rest" = "null ...rest" := by decide

example : declarator ∅ false "first" = "first" := by decide

end ParamTypes
