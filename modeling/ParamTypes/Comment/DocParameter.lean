import ParamTypes.Declarator

/-!
What a documentation comment says about one parameter.
-/

namespace ParamTypes

structure DocParameter where
  name : String
  type : UnionType
  isVariadic : Bool
deriving DecidableEq

namespace DocParameter

/-- Stands for a tag that names no parameter, so that the tags behind it keep
their positions. -/
def placeholder : DocParameter :=
  ⟨"", ∅, false⟩

def text (documented : DocParameter) : String :=
  declarator documented.type documented.isVariadic documented.name

end DocParameter

end ParamTypes
