import ParamTypes.Declarator

/-!
Declared parameters.
-/

namespace ParamTypes

/-- A parameter of a declaration. The type of a variadic parameter is the type
of each of its arguments. -/
structure Parameter where
  name : String
  type : UnionType
  isVariadic : Bool := false
  defaultType : Option UnionType := none
deriving DecidableEq

namespace Parameter

def isOptional (parameter : Parameter) : Bool :=
  parameter.isVariadic || parameter.defaultType.isSome

/-- The parameter as one argument meets it. -/
def single (parameter : Parameter) : Parameter :=
  { parameter with isVariadic := false }

def text (parameter : Parameter) : String :=
  declarator parameter.type parameter.isVariadic parameter.name

def sameDefaults : (first second : Option UnionType) → Bool
  | none, none => true
  | some first, some second => first.sameMembers second
  | _, _ => false

def isEquivalent (first second : Parameter) : Bool :=
  first.name == second.name && first.type.sameMembers second.type &&
    first.isVariadic == second.isVariadic &&
    sameDefaults first.defaultType second.defaultType

end Parameter

end ParamTypes
