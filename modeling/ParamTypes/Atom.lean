import ParamTypes.Keyword

/-!
The atoms of union types: keywords and class names.
-/

namespace ParamTypes

/-- One member of a union type. A class may bear the name of a keyword; it
stays a class. -/
inductive Atom
  | keyword (word : Keyword)
  | named (className : String)
deriving DecidableEq, Repr

namespace Atom

/-- The class of a name. The separators in front of a fully qualified name
carry no meaning. -/
def ofClassName (name : String) : Atom :=
  .named (String.ofList (name.toList.dropWhile (· == '\\')))

example : ofClassName "\\App\\Model" = .named "App\\Model" := by decide

def text : Atom → String
  | .keyword word => word.text
  | .named className => className

@[simp] theorem text_keyword (word : Keyword) :
    (Atom.keyword word).text = word.text := rfl

@[simp] theorem text_named (className : String) :
    (Atom.named className).text = className := rfl

/-! ## Conversions -/

def conversions : List (Keyword × Keyword) := [
  (.int, .float),
  (.literalTrue, .bool), (.literalFalse, .bool),
  (.bool, .literalTrue), (.bool, .literalFalse),
  (.array, .iterable),
  (.string, .callable), (.array, .callable)]

/-- Whether a value of the source may be used where the target is expected.
The universal type has no special standing between atoms. -/
def castsTo (source target : Atom) : Bool :=
  source == target ||
    match source, target with
    | .keyword source, .keyword target => conversions.contains (source, target)
    | .named _, .keyword .object => true
    | _, _ => false

@[simp] theorem castsTo_self (atom : Atom) : atom.castsTo atom = true := by
  simp [castsTo]

example : castsTo (.keyword .int) (.keyword .float) = true := rfl

example : castsTo (.keyword .float) (.keyword .int) = false := rfl

end Atom

end ParamTypes
