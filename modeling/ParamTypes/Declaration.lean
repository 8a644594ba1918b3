import ParamTypes.Signature.Flag
import ParamTypes.Signature.ParameterList

/-!
Declarations of functions and methods.
-/

namespace ParamTypes

structure Signature where
  flags : FlagSet := ∅
  parameters : ParameterList := {}
deriving DecidableEq

inductive Declaration.Kind
  | function
  | method (className : String) (isStatic : Bool)
deriving DecidableEq, Repr

/-- A declared function or method. The signature of an internal one is trusted
as it stands. -/
structure Declaration where
  name : String
  kind : Declaration.Kind := .function
  isInternal : Bool := false
  signature : Signature := {}
deriving DecidableEq

namespace Declaration

def qualifiedName (declaration : Declaration) : String :=
  match declaration.kind with
  | .function => declaration.name
  | .method className _ => className ++ "::" ++ declaration.name

/-! ## Parameters -/

def parameters (declaration : Declaration) : List Parameter :=
  declaration.signature.parameters.parameters

def modifyParameterList (declaration : Declaration)
    (change : ParameterList → ParameterList) : Declaration :=
  { declaration with
    signature :=
      { declaration.signature with parameters := change declaration.signature.parameters } }

def append (declaration : Declaration) (parameter : Parameter) : Declaration :=
  declaration.modifyParameterList (·.append parameter)

def setParameters (declaration : Declaration) (parameters : List Parameter) : Declaration :=
  declaration.modifyParameterList (·.setParameters parameters)

def setRequired (declaration : Declaration) (required : Nat) : Declaration :=
  declaration.modifyParameterList (·.setRequired required)

def setOptional (declaration : Declaration) (optional : Nat) : Declaration :=
  declaration.modifyParameterList (·.setOptional optional)

def forCaller? (declaration : Declaration) (index : Nat) : Option Parameter :=
  declaration.signature.parameters.forCaller? index

@[simp] theorem parameters_append (declaration : Declaration) (parameter : Parameter) :
    (declaration.append parameter).parameters = declaration.parameters ++ [parameter] := rfl

@[simp] theorem parameters_setParameters (declaration : Declaration)
    (parameters : List Parameter) :
    (declaration.setParameters parameters).parameters = parameters := rfl

/-! ## Flags -/

def has (declaration : Declaration) (flag : Flag) : Bool :=
  declaration.signature.flags.has flag

def setFlag (declaration : Declaration) (flag : Flag) (value : Bool) : Declaration :=
  { declaration with
    signature :=
      { declaration.signature with flags := declaration.signature.flags.set flag value } }

@[simp] theorem parameters_setFlag (declaration : Declaration) (flag : Flag)
    (value : Bool) :
    (declaration.setFlag flag value).parameters = declaration.parameters := rfl

def isReturnTypeUndefined (declaration : Declaration) : Bool :=
  declaration.has .returnTypeUndefined

def setIsReturnTypeUndefined (declaration : Declaration) (value : Bool) : Declaration :=
  declaration.setFlag .returnTypeUndefined value

def hasReturn (declaration : Declaration) : Bool :=
  declaration.has .hasReturn

def setHasReturn (declaration : Declaration) (value : Bool) : Declaration :=
  declaration.setFlag .hasReturn value

def hasYield (declaration : Declaration) : Bool :=
  declaration.has .hasYield

def setHasYield (declaration : Declaration) (value : Bool) : Declaration :=
  declaration.setFlag .hasYield value

end Declaration

end ParamTypes
