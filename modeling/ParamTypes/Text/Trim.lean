import ParamTypes.Text.CharClass

/-!
Cutting characters off the two ends of a text: runs of blanks, runs of any
class, and given beginnings and endings.
-/

namespace ParamTypes.Text

/-! ## Runs at an end -/

/-- Drop the longest run at the end whose characters all satisfy `drops`. -/
def dropEndWhile (drops : Char → Bool) (text : List Char) : List Char :=
  (text.reverse.dropWhile drops).reverse

@[simp] theorem dropEndWhile_nil (drops : Char → Bool) :
    dropEndWhile drops [] = [] := rfl

theorem length_dropEndWhile_le (drops : Char → Bool) (text : List Char) :
    (dropEndWhile drops text).length ≤ text.length := by
  simpa [dropEndWhile] using
    (List.dropWhile_sublist drops (l := text.reverse)).length_le

def trimStart (text : List Char) : List Char :=
  text.dropWhile isBlank

def trimEnd (text : List Char) : List Char :=
  dropEndWhile isBlank text

def trim (text : List Char) : List Char :=
  trimEnd (trimStart text)

example : trim "\u3000 a b\r\n".toList = "a b".toList := by decide

theorem length_trimStart_le (text : List Char) :
    (trimStart text).length ≤ text.length :=
  (List.dropWhile_sublist isBlank).length_le

theorem length_trim_le (text : List Char) : (trim text).length ≤ text.length :=
  Nat.le_trans (length_dropEndWhile_le isBlank _) (length_trimStart_le text)

/-! ## Given beginnings and endings -/

def stripStart? : (beginning text : List Char) → Option (List Char)
  | [], text => some text
  | _ :: _, [] => none
  | expected :: beginning, character :: text =>
      if character = expected then stripStart? beginning text else none

theorem stripStart?_eq_some_iff {beginning text rest : List Char} :
    stripStart? beginning text = some rest ↔ text = beginning ++ rest := by
  induction beginning generalizing text with
  | nil => simp [stripStart?]
  | cons expected beginning induction =>
      cases text with
      | nil => simp [stripStart?]
      | cons character text =>
          by_cases same : character = expected <;> simp [stripStart?, same, induction]

def stripEnd? (ending text : List Char) : Option (List Char) :=
  (stripStart? ending.reverse text.reverse).map List.reverse

theorem stripEnd?_eq_some_iff {ending text rest : List Char} :
    stripEnd? ending text = some rest ↔ text = rest ++ ending := by
  simp only [stripEnd?, Option.map_eq_some_iff, stripStart?_eq_some_iff]
  constructor
  · rintro ⟨reversed, split, rfl⟩
    simpa using congrArg List.reverse split
  · rintro rfl
    exact ⟨rest.reverse, by simp⟩

example : stripEnd? "[]".toList "int[]".toList = some "int".toList := by decide

/-! ## The first word -/

def firstWord (text : List Char) : List Char :=
  text.takeWhile (!isBlank ·)

/-- What follows the first word, beginning with a blank unless empty. -/
def afterFirstWord (text : List Char) : List Char :=
  text.dropWhile (!isBlank ·)

end ParamTypes.Text
