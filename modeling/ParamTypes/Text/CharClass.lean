/-!
Character classes given by ranges of code points, and the class of blanks.
-/

namespace ParamTypes.Text

/-! ## Ranges of code points -/

structure CodeRange where
  first : Nat
  last : Nat
deriving DecidableEq

namespace CodeRange

def contains (range : CodeRange) (character : Char) : Bool :=
  range.first ≤ character.toNat && character.toNat ≤ range.last

def ascending : List CodeRange → Bool
  | [] => true
  | [range] => range.first ≤ range.last
  | range :: next :: rest =>
      range.first ≤ range.last && range.last < next.first && ascending (next :: rest)

end CodeRange

/-! ## Blanks -/

/-- The ranges of the Unicode property White_Space. -/
def blankRanges : List CodeRange := [
  ⟨0x09, 0x0D⟩, ⟨0x20, 0x20⟩, ⟨0x85, 0x85⟩, ⟨0xA0, 0xA0⟩, ⟨0x1680, 0x1680⟩,
  ⟨0x2000, 0x200A⟩, ⟨0x2028, 0x2029⟩, ⟨0x202F, 0x202F⟩, ⟨0x205F, 0x205F⟩,
  ⟨0x3000, 0x3000⟩]

def isBlank (character : Char) : Bool :=
  blankRanges.any (·.contains character)

example : CodeRange.ascending blankRanges = true := rfl

example : isBlank '\x0c' = true := rfl

example : isBlank '\u200b' = false := rfl

end ParamTypes.Text
