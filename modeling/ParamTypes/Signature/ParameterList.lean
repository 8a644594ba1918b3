import ParamTypes.Signature.Parameter

/-!
Parameter lists with their arity counts, and the parameters that callers meet.
-/

namespace ParamTypes

/-- The parameters of a declaration. The counts are kept by whoever builds the
list and may differ from it while the declaration is read. -/
structure ParameterList where
  parameters : List Parameter := []
  required : Nat := 0
  optional : Nat := 0
deriving DecidableEq

namespace ParameterList

def ofList (parameters : List Parameter) : ParameterList where
  parameters := parameters
  required := parameters.length - parameters.countP Parameter.isOptional
  optional := parameters.countP Parameter.isOptional

theorem required_add_optional_ofList (parameters : List Parameter) :
    (ofList parameters).required + (ofList parameters).optional =
      parameters.length :=
  Nat.sub_add_cancel List.countP_le_length

def append (list : ParameterList) (parameter : Parameter) : ParameterList :=
  { list with parameters := list.parameters ++ [parameter] }

/-- Exchange all parameters; the counts stay. -/
def setParameters (list : ParameterList) (parameters : List Parameter) : ParameterList :=
  { list with parameters }

def setRequired (list : ParameterList) (required : Nat) : ParameterList :=
  { list with required }

def setOptional (list : ParameterList) (optional : Nat) : ParameterList :=
  { list with optional }

/-- The number of parameters by the counts, as a word of 64 bits. -/
def total (list : ParameterList) : Nat :=
  (list.required + list.optional) % UInt64.size

def isVariadic (list : ParameterList) : Bool :=
  list.parameters.getLast?.any Parameter.isVariadic

/-- The parameter that takes the argument at an index: the one at that index,
else a variadic one at the end. -/
def forCaller? (list : ParameterList) (index : Nat) : Option Parameter :=
  (list.parameters[index]?.or
    (list.parameters.getLast?.filter Parameter.isVariadic)).map Parameter.single

example :
    (ofList [⟨"first", ∅, false, none⟩, ⟨"rest", .null, true, none⟩]).forCaller? 5 =
      some ⟨"rest", .null, false, none⟩ := by
  decide

def isEquivalent (first second : ParameterList) : Bool :=
  first.parameters.length == second.parameters.length &&
    (first.parameters.zip second.parameters).all
      (fun (left, right) => left.isEquivalent right) &&
    first.required == second.required && first.optional == second.optional

end ParameterList

end ParamTypes
