/-!
Number literals of JSON.

A literal is an integer without leading zeros, behind an optional minus sign,
then an optional fraction and an optional exponent.
-/

namespace ParamTypes.Json.Number

def skipDigits? : List Char → Option (List Char)
  | [] => none
  | first :: rest => if first.isDigit then some (rest.dropWhile Char.isDigit) else none

def skipSign : List Char → List Char
  | '-' :: rest => rest
  | text => text

/-- A zero stands alone. -/
def skipInteger? : List Char → Option (List Char)
  | '0' :: rest => some rest
  | text => skipDigits? text

def skipFraction? : List Char → Option (List Char)
  | '.' :: rest => skipDigits? rest
  | text => some text

def skipExponent? : List Char → Option (List Char)
  | 'e' :: '+' :: rest | 'e' :: '-' :: rest | 'E' :: '+' :: rest | 'E' :: '-' :: rest =>
      skipDigits? rest
  | 'e' :: rest | 'E' :: rest => skipDigits? rest
  | text => some text

def isLiteral (text : List Char) : Bool :=
  (((skipInteger? (skipSign text)).bind skipFraction?).bind skipExponent?) == some []

example : isLiteral "-0.5e+10".toList = true := by decide

example : isLiteral "01".toList = false := by decide

def isPart (character : Char) : Bool :=
  character.isDigit || ['-', '+', '.', 'e', 'E'].contains character

def natural? (literal : List Char) : Option Nat :=
  if literal.all Char.isDigit then
    some (literal.foldl (fun value digit => 10 * value + (digit.toNat - '0'.toNat)) 0)
  else
    none

example : natural? "10005".toList = some 10005 := by decide

example : natural? "-0".toList = none := by decide

end ParamTypes.Json.Number
