import ParamTypes.Atom
import ParamTypes.OrderedSet

/-!
Union types: ordered sets of atoms, their casts and their written form.
-/

namespace ParamTypes

/-- A union of atoms. The empty union says that nothing is known about the
type, not that it has no values. -/
abbrev UnionType := OrderedSet Atom

namespace UnionType

def ofKeyword (keyword : Keyword) : UnionType :=
  .singleton (.keyword keyword)

def any : UnionType := ofKeyword .any

def null : UnionType := ofKeyword .null

def isNullable (type : UnionType) : Bool :=
  .keyword .null ∈ type

def isExactly (type : UnionType) (atom : Atom) : Bool :=
  type.toList == [atom]

/-- Whether a value of the source may be used where the target is expected:
nothing known on one side, the universal type on one side, or one atom that
may stand for one of the target. -/
def castsTo (source target : UnionType) : Bool :=
  source.isEmpty || target.isEmpty ||
    (.keyword .any ∈ source : Bool) || (.keyword .any ∈ target : Bool) ||
    source.toList.any fun given => target.toList.any (given.castsTo ·)

def text (type : UnionType) : String :=
  "|".intercalate (type.toList.map Atom.text)

@[simp] theorem text_empty : text ∅ = "" := rfl

example :
    text (.ofList [.keyword .int, .named "App\\Model"]) = "int|App\\Model" := by
  decide

end UnionType

end ParamTypes
