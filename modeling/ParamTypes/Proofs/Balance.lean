import Mathlib.Data.List.Infix

/-!
Balances of texts that open and close something. The depth of a place in a text is the
balance of what stands in front of it, and a text closes only what it has opened if no
depth in it is negative. A scan whose depth is a natural number counts the same as long
as nothing is closed that is not open.
-/

namespace ParamTypes.Text

variable {opens closes : Char → Bool} {depth : Int}

/-- How much more a text opens than it closes. -/
def balance (opens closes : Char → Bool) (text : List Char) : Int :=
  text.countP opens - text.countP closes

@[simp] theorem balance_nil : balance opens closes [] = 0 := rfl

theorem balance_append (first second : List Char) :
    balance opens closes (first ++ second) =
      balance opens closes first + balance opens closes second := by
  simp only [balance, List.countP_append, Int.natCast_add]
  omega

theorem balance_cons (character : Char) (rest : List Char) :
    balance opens closes (character :: rest) =
      balance opens closes [character] + balance opens closes rest :=
  balance_append [character] rest

theorem balance_singleton (character : Char) :
    balance opens closes [character] =
      (if opens character then 1 else 0) - (if closes character then 1 else 0) := by
  simp only [balance, List.countP_singleton]
  split <;> split <;> rfl

def ClosesOpen (opens closes : Char → Bool) (depth : Int) (text : List Char) : Prop :=
  ∀ before, before <+: text → 0 ≤ depth + balance opens closes before

theorem closesOpen_nil : ClosesOpen opens closes depth [] ↔ 0 ≤ depth := by
  simp [ClosesOpen]

theorem closesOpen_cons {character : Char} {rest : List Char} :
    ClosesOpen opens closes depth (character :: rest) ↔
      0 ≤ depth ∧ ClosesOpen opens closes (depth + balance opens closes [character]) rest := by
  constructor
  · intro inside
    constructor
    · simpa using inside [] List.nil_prefix
    · intro before isPrefix
      have deeper := inside (character :: before) (List.cons_prefix_cons.mpr ⟨rfl, isPrefix⟩)
      rwa [balance_cons, ← Int.add_assoc] at deeper
  · rintro ⟨outside, inside⟩ before isPrefix
    rcases List.prefix_cons_iff.mp isPrefix with rfl | ⟨later, rfl, isLater⟩
    · simpa using outside
    · rw [balance_cons, ← Int.add_assoc]
      exact inside later isLater

theorem ClosesOpen.of_isPrefix {text before : List Char}
    (inside : ClosesOpen opens closes depth text)
    (isPrefix : before <+: text) : ClosesOpen opens closes depth before :=
  fun shorter isShorter => inside shorter (isShorter.trans isPrefix)

theorem ClosesOpen.nonneg {text : List Char} (inside : ClosesOpen opens closes depth text) :
    0 ≤ depth := by
  simpa using inside [] List.nil_prefix

/-! ## Scans -/

/-- The depth behind one more character, if what closes nothing is ignored. -/
def clampedStep (opens closes : Char → Bool) (depth : Nat) (character : Char) : Nat :=
  if opens character then depth + 1
  else if closes character then depth - 1
  else depth

section

variable {character : Char} (apart : opens character = true → closes character = false)

include apart

theorem not_opens_of_closes (closing : closes character = true) : ¬ opens character = true := by
  intro opening
  rw [apart opening] at closing
  cases closing

theorem balance_of_closes (closing : closes character = true) :
    balance opens closes [character] = -1 := by
  rw [balance_singleton, if_neg (not_opens_of_closes apart closing), if_pos closing]
  rfl

theorem not_closesOpen_of_closes (closing : closes character = true) (rest : List Char) :
    ¬ ClosesOpen opens closes (0 : Nat) (character :: rest) := by
  intro inside
  have negative := (closesOpen_cons.mp inside).2.nonneg
  rw [balance_of_closes apart closing] at negative
  exact absurd negative (by decide)

theorem natCast_clampedStep {depth : Nat}
    (goesOn : ¬ (closes character = true ∧ depth = 0)) :
    (clampedStep opens closes depth character : Int) =
      depth + balance opens closes [character] := by
  unfold clampedStep
  by_cases closing : closes character = true
  · have positive : depth ≠ 0 := fun outermost => goesOn ⟨closing, outermost⟩
    rw [balance_of_closes apart closing, if_neg (not_opens_of_closes apart closing),
      if_pos closing]
    omega
  · rw [balance_singleton, if_neg closing, if_neg closing, Int.sub_zero]
    split
    · rfl
    · exact (Int.add_zero _).symm

end

end ParamTypes.Text
