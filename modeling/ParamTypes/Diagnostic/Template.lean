/-!
Message templates with numbered slots.

The slot of number `n` is written as `n` in braces. Slots are filled one number
after another, so an argument may itself bring in slots of higher numbers.
-/

namespace ParamTypes.Template

/-- Drop `skipped` characters, then put the replacement in the place of every
occurrence of the pattern. Occurrences are found from the left and do not
overlap. -/
def replaceFrom (pattern replacement : List Char) :
    (skipped : Nat) → (text : List Char) → List Char
  | _, [] => []
  | skipped + 1, _ :: rest => replaceFrom pattern replacement skipped rest
  | 0, character :: rest =>
      if pattern.isPrefixOf (character :: rest) then
        replacement ++ replaceFrom pattern replacement (pattern.length - 1) rest
      else
        character :: replaceFrom pattern replacement 0 rest

def replaceAll (pattern replacement text : List Char) : List Char :=
  replaceFrom pattern replacement 0 text

example : replaceAll "aa".toList "b".toList "aaaca".toList = "baca".toList := by
  decide

def slot (number : Nat) : List Char :=
  '\x7b' :: (Nat.repr number).toList ++ ['\x7d']

def fillFrom (number : Nat) (text : List Char) : (arguments : List String) → List Char
  | [] => text
  | argument :: arguments =>
      fillFrom (number + 1) (replaceAll (slot number) argument.toList text) arguments

/-- Fill the slots of a template. Slots without an argument stay as they are. -/
def fill (template : String) (arguments : List String) : String :=
  String.ofList (fillFrom 0 template.toList arguments)

example : fill "\x7b1\x7d, \x7b0\x7d, \x7b2\x7d" ["a", "b"] = "b, a, \x7b2\x7d" := by
  decide +kernel

example : fill "\x7b0\x7d" ["\x7b1\x7d", "b"] = "b" := by decide +kernel

end ParamTypes.Template
