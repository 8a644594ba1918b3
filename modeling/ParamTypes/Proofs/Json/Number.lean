import ParamTypes.Json.Number
import ParamTypes.Proofs.Text

/-!
Number literals by their parts, and the decimal form of a natural number.

Every literal that is put together from its parts is accepted (`Literal.isLiteral_text`),
and a natural number is read back from its decimal form (`natural?_toDigits`).
-/

namespace ParamTypes.Json.Number

open Text

/-! ## The parts of a literal -/

structure Digits where
  text : List Char
  nonempty : text ≠ []
  areDigits : ∀ digit ∈ text, digit.isDigit = true

structure Exponent where
  letter : Char
  isLetter : letter ∈ ['e', 'E']
  sign : List Char
  isSign : sign ∈ [[], ['+'], ['-']]
  digits : Digits

def Exponent.text (exponent : Exponent) : List Char :=
  exponent.letter :: (exponent.sign ++ exponent.digits.text)

/-- A number literal. Only the number zero begins with the digit. -/
structure Literal where
  isNegative : Bool
  integer : Digits
  noLeadingZero : integer.text.head? = some '0' → integer.text = ['0']
  fraction? : Option Digits
  exponent? : Option Exponent

namespace Literal

def minus (literal : Literal) : List Char :=
  if literal.isNegative then ['-'] else []

def fraction (literal : Literal) : List Char :=
  literal.fraction?.elim [] fun digits => '.' :: digits.text

def exponent (literal : Literal) : List Char :=
  literal.exponent?.elim [] Exponent.text

def text (literal : Literal) : List Char :=
  literal.minus ++ (literal.integer.text ++ (literal.fraction ++ literal.exponent))

end Literal

/-! ## Skipping the parts -/

theorem Digits.exists_cons (digits : Digits) :
    ∃ first rest, digits.text = first :: rest ∧ first.isDigit = true := by
  rcases List.exists_cons_of_ne_nil digits.nonempty with ⟨first, rest, parts⟩
  exact ⟨first, rest, parts, digits.areDigits first (parts ▸ List.mem_cons_self)⟩

theorem skipDigits?_text (digits : Digits) {rest : List Char}
    (stops : ∀ next ∈ rest.head?, next.isDigit = false) :
    skipDigits? (digits.text ++ rest) = some rest := by
  rcases digits.exists_cons with ⟨first, others, parts, isDigit⟩
  have areDigits : ∀ digit ∈ others, digit.isDigit = true := fun digit member =>
    digits.areDigits digit (parts ▸ List.mem_cons_of_mem _ member)
  rw [parts, List.cons_append, skipDigits?, if_pos isDigit,
    dropWhile_append_of_head areDigits stops]

theorem skipInteger?_text (literal : Literal) {rest : List Char}
    (stops : ∀ next ∈ rest.head?, next.isDigit = false) :
    skipInteger? (literal.integer.text ++ rest) = some rest := by
  by_cases isZero : literal.integer.text.head? = some '0'
  · rw [literal.noLeadingZero isZero]
    rfl
  · rw [← skipDigits?_text literal.integer stops]
    rcases literal.integer.exists_cons with ⟨first, others, parts, _⟩
    rw [parts] at isZero ⊢
    rw [List.cons_append, skipInteger?]
    intro rest same
    cases same
    exact isZero rfl

theorem skipSign_text (literal : Literal) (rest : List Char) :
    skipSign (literal.minus ++ (literal.integer.text ++ rest)) = literal.integer.text ++ rest := by
  cases negative : literal.isNegative with
  | true =>
      rw [Literal.minus, negative]
      rfl
  | false =>
      rcases literal.integer.exists_cons with ⟨first, others, parts, isDigit⟩
      rw [Literal.minus, negative, parts]
      simp only [Bool.false_eq_true, if_false, List.nil_append, List.cons_append]
      rw [skipSign]
      intro rest same
      cases same
      cases isDigit

theorem head?_exponent (literal : Literal) :
    ∀ next ∈ literal.exponent.head?, next ∈ ['e', 'E'] := by
  intro next begins
  rw [Literal.exponent] at begins
  cases written : literal.exponent? with
  | none =>
      rw [written] at begins
      cases begins
  | some exponent =>
      rw [written] at begins
      cases begins
      exact exponent.isLetter

theorem skipFraction?_text (literal : Literal) :
    skipFraction? (literal.fraction ++ literal.exponent) = some literal.exponent := by
  have stops := head?_exponent literal
  rw [Literal.fraction]
  cases written : literal.fraction? with
  | none =>
      rw [Option.elim_none, List.nil_append]
      unfold skipFraction?
      split
      · rename_i rest parts
        rw [parts] at stops
        exact absurd (stops '.' rfl) (by decide)
      · rfl
  | some digits =>
      rw [Option.elim_some, List.cons_append, skipFraction?]
      apply skipDigits?_text
      intro next begins
      have noDigit (letter : Char) : letter ∈ ['e', 'E'] → letter.isDigit = false :=
        eq_false_of_mem (by decide)
      exact noDigit next (stops next begins)

theorem skipExponent?_of_digit {letter first : Char} (isLetter : letter ∈ ['e', 'E'])
    (isDigit : first.isDigit = true) (rest : List Char) :
    skipExponent? (letter :: first :: rest) = skipDigits? (first :: rest) := by
  have noSign (mark : Char) (isMark : mark ∈ ['+', '-']) : first ≠ mark := by
    rintro rfl
    have noDigit : first.isDigit = false := eq_false_of_mem (by decide) isMark
    rw [isDigit] at noDigit
    cases noDigit
  have noPlus := noSign '+' (by decide)
  have noMinus := noSign '-' (by decide)
  simp only [List.mem_cons, List.not_mem_nil, or_false] at isLetter
  rcases isLetter with rfl | rfl
  · simp [skipExponent?, noPlus, noMinus]
  · simp [skipExponent?, noPlus, noMinus]

theorem skipExponent?_text (exponent : Exponent) : skipExponent? exponent.text = some [] := by
  have digits : skipDigits? exponent.digits.text = some [] := by
    have stops : ∀ next ∈ ([] : List Char).head?, next.isDigit = false := by
      intro next begins
      cases begins
    have skipped := skipDigits?_text exponent.digits stops
    rwa [List.append_nil] at skipped
  rw [← digits, Exponent.text]
  have isSign := exponent.isSign
  simp only [List.mem_cons, List.not_mem_nil, or_false] at isSign
  rcases isSign with none | plus | minus
  · rcases exponent.digits.exists_cons with ⟨first, rest, parts, isDigit⟩
    rw [none, parts]
    exact skipExponent?_of_digit exponent.isLetter isDigit rest
  all_goals
    have isLetter := exponent.isLetter
    simp only [List.mem_cons, List.not_mem_nil, or_false] at isLetter
    rcases isLetter with small | capital
  · rw [plus, small]
    rfl
  · rw [plus, capital]
    rfl
  · rw [minus, small]
    rfl
  · rw [minus, capital]
    rfl

/-! ## Whole literals -/

namespace Literal

theorem isLiteral_text (literal : Literal) : isLiteral literal.text = true := by
  have stops : ∀ next ∈ (literal.fraction ++ literal.exponent).head?, next.isDigit = false := by
    intro next begins
    have isMark : next ∈ ['.', 'e', 'E'] := by
      rw [fraction] at begins
      cases written : literal.fraction? with
      | none =>
          rw [written, Option.elim_none, List.nil_append] at begins
          exact List.mem_cons_of_mem _ (head?_exponent literal next begins)
      | some digits =>
          rw [written] at begins
          cases begins
          exact List.mem_cons_self
    exact eq_false_of_mem (by decide) isMark
  have ends : skipExponent? literal.exponent = some [] := by
    rw [exponent]
    cases literal.exponent? with
    | none => rfl
    | some exponent => exact skipExponent?_text exponent
  rw [isLiteral, text, skipSign_text, skipInteger?_text literal stops, Option.bind_some,
    skipFraction?_text, Option.bind_some, ends]
  rfl

theorem isPart_of_mem_text (literal : Literal) :
    ∀ character ∈ literal.text, isPart character = true := by
  have digit (digits : Digits) : ∀ character ∈ digits.text, isPart character = true :=
    fun character member => by rw [isPart, digits.areDigits character member, Bool.true_or]
  have mark (character : Char) (isMark : character ∈ ['-', '+', '.', 'e', 'E']) :
      isPart character = true := by
    rw [isPart, List.contains_iff_mem.mpr isMark, Bool.or_true]
  rw [text, List.forall_mem_append, List.forall_mem_append, List.forall_mem_append]
  refine ⟨?_, digit literal.integer, ?_, ?_⟩
  · rw [minus]
    split
    · exact List.forall_mem_singleton.mpr rfl
    · exact List.forall_mem_nil _
  · rw [fraction]
    cases literal.fraction? with
    | none => exact List.forall_mem_nil _
    | some digits => exact List.forall_mem_cons.mpr ⟨rfl, digit digits⟩
  · rw [exponent]
    cases literal.exponent? with
    | none => exact List.forall_mem_nil _
    | some exponent =>
        rw [Option.elim_some, Exponent.text, List.forall_mem_cons, List.forall_mem_append]
        have letters : ['e', 'E'] ⊆ ['-', '+', '.', 'e', 'E'] := by decide
        refine ⟨mark _ (letters exponent.isLetter), ?_, digit exponent.digits⟩
        have isSign := exponent.isSign
        simp only [List.mem_cons, List.not_mem_nil, or_false] at isSign
        rcases isSign with none | plus | minus
        · rw [none]
          exact List.forall_mem_nil _
        · rw [plus]
          exact List.forall_mem_singleton.mpr rfl
        · rw [minus]
          exact List.forall_mem_singleton.mpr rfl

theorem isAlpha_of_isDigit {digit : Char} (isDigit : digit.isDigit = true) :
    digit.isAlpha = false := by
  have digits : digit.isDigit = (decide ('0'.val ≤ digit.val) && decide (digit.val ≤ '9'.val)) :=
    rfl
  have letters : digit.isAlpha =
      (decide ('A'.val ≤ digit.val ∧ digit.val ≤ 'Z'.val) ||
        decide ('a'.val ≤ digit.val) && decide (digit.val ≤ 'z'.val)) :=
    rfl
  rw [digits] at isDigit
  rw [letters]
  simp only [Bool.and_eq_true, decide_eq_true_eq, UInt32.le_iff_toNat_le, Bool.or_eq_false_iff,
    Bool.and_eq_false_iff, decide_eq_false_iff_not] at isDigit ⊢
  have nine : '9'.val.toNat = 57 := rfl
  have capital : 'A'.val.toNat = 65 := rfl
  have small : 'a'.val.toNat = 97 := rfl
  omega

theorem exists_text_eq_cons (literal : Literal) :
    ∃ first rest, literal.text = first :: rest ∧ first.isAlpha = false := by
  rw [text, minus]
  cases literal.isNegative with
  | true => exact ⟨'-', _, rfl, rfl⟩
  | false =>
      rcases literal.integer.exists_cons with ⟨first, others, parts, isDigit⟩
      rw [parts]
      exact ⟨first, _, rfl, isAlpha_of_isDigit isDigit⟩

end Literal

/-! ## Decimal numbers -/

theorem head?_toDigits {number : Nat} (positive : 0 < number) :
    (Nat.toDigits 10 number).head? ≠ some '0' := by
  induction number using Nat.strongRecOn with
  | ind number induction =>
      by_cases small : number < 10
      · have visible : ∀ digit < 10, 0 < digit → Nat.digitChar digit ≠ '0' := by decide
        rw [Nat.toDigits_of_lt_base small]
        exact fun zero => visible number small positive (Option.some.inj zero)
      · have large := not_lt.mp small
        rw [Nat.toDigits_of_base_le (by decide) large,
          List.head?_append_of_ne_nil _ Nat.toDigits_ne_nil]
        exact induction (number / 10) (Nat.div_lt_self positive (by decide))
          (Nat.div_pos large (by decide))

def Literal.ofNat (number : Nat) : Literal where
  isNegative := false
  integer :=
    { text := Nat.toDigits 10 number
      nonempty := Nat.toDigits_ne_nil
      areDigits := fun _ => Nat.isDigit_of_mem_toDigits (by decide) (by decide) }
  noLeadingZero := by
    intro zero
    cases number with
    | zero => rfl
    | succ number => exact absurd zero (head?_toDigits (Nat.succ_pos number))
  fraction? := none
  exponent? := none

theorem Literal.text_ofNat (number : Nat) : (ofNat number).text = Nat.toDigits 10 number := by
  rw [text, minus, fraction, exponent]
  exact List.append_nil _

theorem natural?_toDigits (number : Nat) : natural? (Nat.toDigits 10 number) = some number := by
  have areDigits : (Nat.toDigits 10 number).all Char.isDigit = true :=
    List.all_eq_true.mpr fun _ => Nat.isDigit_of_mem_toDigits (by decide) (by decide)
  rw [natural?, if_pos areDigits, ← Nat.ofDigitChars_eq_foldl, Nat.ofDigitChars_ten_toDigits]

end ParamTypes.Json.Number
