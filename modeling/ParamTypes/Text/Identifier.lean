import ParamTypes.Text.Letter
import ParamTypes.Text.Numeral

/-!
Identifiers: the names of parameters and the segments of class names.
-/

namespace ParamTypes.Text

def isIdentifierStart (character : Char) : Bool :=
  character == '_' || isLetter character

def isIdentifierPart (character : Char) : Bool :=
  isIdentifierStart character || isNumeral character

/-- An underscore or a letter, followed by underscores, letters and numerals. -/
def isIdentifier : List Char → Bool
  | [] => false
  | first :: rest => isIdentifierStart first && rest.all isIdentifierPart

example : isIdentifier "_größe2".toList = true := by decide +kernel

example : isIdentifier "2nd".toList = false := by decide +kernel

end ParamTypes.Text
