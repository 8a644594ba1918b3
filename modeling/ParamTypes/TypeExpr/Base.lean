import ParamTypes.Text.Identifier
import ParamTypes.Text.Trim
import ParamTypes.TypeExpr.Fault
import ParamTypes.UnionType

/-!
Single names in type expressions: keywords and class names, with or without
generic arguments.
-/

namespace ParamTypes.TypeExpr

open Text

/-- Identifiers separated by `\`, behind any number of further `\`. -/
def isClassName (name : List Char) : Bool :=
  ((name.dropWhile (· == '\\')).splitOn '\\').all isIdentifier

example : isClassName "\\App\\Model".toList = true := by decide +kernel

example : isClassName "App\\\\Model".toList = false := by decide +kernel

/-- The atom that a name stands for. Keywords come first, so a class of the
name of a keyword has to be fully qualified. -/
def nameAtom (name : List Char) : Except Fault Atom :=
  match Keyword.ofWord? (String.ofList name) with
  | some word => .ok (.keyword word)
  | none =>
      if isClassName name then
        .ok (.ofClassName (String.ofList name))
      else
        .error .invalidName

/-- The name in front of generic arguments. The arguments reach to the end of
the text and are not read. -/
def genericBase (text : List Char) : Except Fault (List Char) :=
  if '<' ∉ text then
    .ok text
  else if text.getLast? = some '>' then
    .ok (trimEnd (text.takeWhile (· ≠ '<')))
  else
    .error .malformedGeneric

example : genericBase "array <int, Model>".toList = .ok "array".toList := by cbv

end ParamTypes.TypeExpr
