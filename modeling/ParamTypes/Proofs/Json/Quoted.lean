import Mathlib
import ParamTypes.Json.Quoted

/-!
String literals and the code units that they spell.

A literal spells a sequence of UTF-16 code units, character by character or escaped. Its
text is the one with these code units; there is none if a surrogate lacks its partner
(`text?_eq_some_iff`).
-/

namespace ParamTypes.Json.Quoted

/-! ## Code units -/

def codeUnits (character : Char) : List Nat :=
  if character.toNat < 0x10000 then
    [character.toNat]
  else
    [0xD800 + (character.toNat - 0x10000) / 0x400, 0xDC00 + (character.toNat - 0x10000) % 0x400]

example : codeUnits '😀' = [0xD83D, 0xDE00] := by decide

theorem toNat_valid (character : Char) :
    character.toNat < 0xD800 ∨ 0xDFFF < character.toNat ∧ character.toNat < 0x110000 :=
  character.valid

theorem codeUnits_of_lt {character : Char} (small : character.toNat < 0x10000) :
    codeUnits character = [character.toNat] :=
  if_pos small

theorem codeUnits_of_le {character : Char} (large : 0x10000 ≤ character.toNat) :
    codeUnits character = [0xD800 + (character.toNat - 0x10000) / 0x400,
      0xDC00 + (character.toNat - 0x10000) % 0x400] :=
  if_neg (Nat.not_lt.mpr large)

theorem codeUnits_ofNat {code : Nat} (small : code < 0x10000)
    (notHigh : isHighSurrogate code = false) (notLow : isLowSurrogate code = false) :
    codeUnits (Char.ofNat code) = [code] := by
  simp only [isHighSurrogate, isLowSurrogate, Bool.and_eq_false_iff, decide_eq_false_iff_not]
    at notHigh notLow
  have valid : code.isValidChar := by
    rw [Nat.isValidChar]
    omega
  have same : (Char.ofNat code).toNat = code := by rw [Char.toNat_ofNat, if_pos valid]
  rw [codeUnits_of_lt (by omega), same]

theorem toNat_joinSurrogates {high low : Nat} (isHigh : isHighSurrogate high = true)
    (isLow : isLowSurrogate low = true) :
    (joinSurrogates high low).toNat = 0x10000 + (high - 0xD800) * 0x400 + (low - 0xDC00) := by
  simp only [isHighSurrogate, isLowSurrogate, Bool.and_eq_true, decide_eq_true_eq] at isHigh isLow
  have valid : (0x10000 + (high - 0xD800) * 0x400 + (low - 0xDC00)).isValidChar := by
    rw [Nat.isValidChar]
    omega
  rw [joinSurrogates, Char.toNat_ofNat, if_pos valid]

theorem codeUnits_joinSurrogates {high low : Nat} (isHigh : isHighSurrogate high = true)
    (isLow : isLowSurrogate low = true) : codeUnits (joinSurrogates high low) = [high, low] := by
  have joined := toNat_joinSurrogates isHigh isLow
  simp only [isHighSurrogate, isLowSurrogate, Bool.and_eq_true, decide_eq_true_eq] at isHigh isLow
  have large : 0x10000 ≤ (joinSurrogates high low).toNat := by omega
  have front : 0xD800 + ((joinSurrogates high low).toNat - 0x10000) / 0x400 = high := by omega
  have back : 0xDC00 + ((joinSurrogates high low).toNat - 0x10000) % 0x400 = low := by omega
  rw [codeUnits_of_le large, front, back]

theorem not_isSurrogate (character : Char) :
    isHighSurrogate character.toNat = false ∧ isLowSurrogate character.toNat = false := by
  have valid := toNat_valid character
  simp only [isHighSurrogate, isLowSurrogate, Bool.and_eq_false_iff, decide_eq_false_iff_not]
  omega

theorem exists_joinSurrogates {character : Char} (large : 0x10000 ≤ character.toNat) :
    ∃ high low, codeUnits character = [high, low] ∧ isHighSurrogate high = true ∧
      isLowSurrogate low = true ∧ joinSurrogates high low = character := by
  have valid := toNat_valid character
  have isHigh : isHighSurrogate (0xD800 + (character.toNat - 0x10000) / 0x400) = true := by
    simp only [isHighSurrogate, Bool.and_eq_true, decide_eq_true_eq]
    omega
  have isLow : isLowSurrogate (0xDC00 + (character.toNat - 0x10000) % 0x400) = true := by
    simp only [isLowSurrogate, Bool.and_eq_true, decide_eq_true_eq]
    omega
  refine ⟨_, _, codeUnits_of_le large, isHigh, isLow, ?_⟩
  rw [← Char.toNat_inj, toNat_joinSurrogates isHigh isLow]
  omega

theorem exists_codeUnits_eq_cons (character : Char) :
    ∃ first rest, codeUnits character = first :: rest ∧ isLowSurrogate first = false := by
  have valid := toNat_valid character
  by_cases small : character.toNat < 0x10000
  · refine ⟨_, _, codeUnits_of_lt small, ?_⟩
    simp only [isLowSurrogate, Bool.and_eq_false_iff, decide_eq_false_iff_not]
    omega
  · refine ⟨_, _, codeUnits_of_le (Nat.not_lt.mp small), ?_⟩
    simp only [isLowSurrogate, Bool.and_eq_false_iff, decide_eq_false_iff_not]
    omega

/-- The code units of a text tell where its characters end. -/
theorem codeUnits_append_inj {character other : Char} {rest later : List Nat}
    (same : codeUnits character ++ rest = codeUnits other ++ later) :
    character = other ∧ rest = later := by
  have valid := toNat_valid character
  have otherValid := toNat_valid other
  rw [← Char.toNat_inj]
  rw [codeUnits, codeUnits] at same
  split at same
  all_goals
    split at same
    all_goals
      simp only [List.cons_append, List.nil_append, List.cons.injEq] at same
  · exact same
  · omega
  · omega
  · exact ⟨by omega, same.2.2⟩

/-! ## The text of a literal -/

namespace Element

def units : Element → List Nat
  | .char character => codeUnits character
  | .unit code => [code]

theorem units_ne_nil (element : Element) : element.units ≠ [] := by
  cases element with
  | char character =>
      rcases exists_codeUnits_eq_cons character with ⟨first, others, parts, _⟩
      rw [units, parts]
      exact List.cons_ne_nil _ _
  | unit code => exact List.cons_ne_nil _ _

def IsSmall : Element → Prop
  | .char _ => True
  | .unit code => code < 0x10000

end Element

theorem text?_unit {code : Nat} (notHigh : isHighSurrogate code = false)
    (notLow : isLowSurrogate code = false) (rest : List Element) :
    text? (.unit code :: rest) = (text? rest).map (Char.ofNat code :: ·) := by
  cases rest with
  | nil => simp [text?, notHigh, notLow]
  | cons element rest => cases element <;> simp [text?, notHigh, notLow]

theorem text?_pair {high low : Nat} (isHigh : isHighSurrogate high = true)
    (isLow : isLowSurrogate low = true) (rest : List Element) :
    text? (.unit high :: .unit low :: rest) =
      (text? rest).map (joinSurrogates high low :: ·) := by
  rw [text?, if_pos isHigh, if_pos isLow]

theorem exists_unit_of_isLowSurrogate {elements : List Element} {low : Nat} {later : List Nat}
    (isLow : isLowSurrogate low = true)
    (same : elements.flatMap Element.units = low :: later) :
    ∃ rest, elements = .unit low :: rest ∧ rest.flatMap Element.units = later := by
  cases elements with
  | nil => cases same
  | cons element rest =>
      rw [List.flatMap_cons] at same
      cases element with
      | char character =>
          rcases exists_codeUnits_eq_cons character with ⟨first, others, parts, notLow⟩
          rw [Element.units, parts] at same
          rw [(List.cons.inj same).1, isLow] at notLow
          cases notLow
      | unit code =>
          rcases List.cons.inj same with ⟨rfl, isLater⟩
          exact ⟨rest, rfl, isLater⟩

theorem exists_text?_of_units_append {elements : List Element} {character : Char}
    {later : List Nat} (same : elements.flatMap Element.units = codeUnits character ++ later) :
    ∃ rest : List Element, rest.flatMap Element.units = later ∧
      text? elements = (text? rest).map (character :: ·) := by
  cases elements with
  | nil =>
      rcases exists_codeUnits_eq_cons character with ⟨first, others, parts, _⟩
      rw [parts] at same
      cases same
  | cons element rest =>
      rw [List.flatMap_cons] at same
      cases element with
      | char other =>
          rcases codeUnits_append_inj same with ⟨rfl, isLater⟩
          exact ⟨rest, isLater, by rw [text?]⟩
      | unit code =>
          by_cases small : character.toNat < 0x10000
          · rw [codeUnits_of_lt small] at same
            rcases List.cons.inj same with ⟨rfl, isLater⟩
            rcases not_isSurrogate character with ⟨notHigh, notLow⟩
            exact ⟨rest, isLater, by rw [text?_unit notHigh notLow, Char.ofNat_toNat]⟩
          · -- Two elements make up the character, since the low surrogate begins no other.
            rcases exists_joinSurrogates (Nat.not_lt.mp small) with
              ⟨high, low, parts, isHigh, isLow, joined⟩
            rw [parts] at same
            rcases List.cons.inj same with ⟨rfl, isRest⟩
            rcases exists_unit_of_isLowSurrogate isLow isRest with ⟨others, rfl, isLater⟩
            exact ⟨others, isLater, by rw [text?_pair isHigh isLow, joined]⟩

theorem text?_of_units {elements : List Element} {text : List Char}
    (same : elements.flatMap Element.units = text.flatMap codeUnits) :
    text? elements = some text := by
  induction text generalizing elements with
  | nil =>
      cases elements with
      | nil => rfl
      | cons element rest =>
          exact absurd (List.append_eq_nil_iff.mp same).1 element.units_ne_nil
  | cons character text induction =>
      rw [List.flatMap_cons] at same
      rcases exists_text?_of_units_append same with ⟨rest, isRest, read⟩
      rw [read, induction isRest, Option.map_some]

theorem units_of_text? {elements : List Element} {text : List Char}
    (small : ∀ element ∈ elements, element.IsSmall) (read : text? elements = some text) :
    elements.flatMap Element.units = text.flatMap codeUnits := by
  fun_induction text? elements generalizing text with
  | case1 =>
      cases read
      rfl
  | case2 character rest induction =>
      rcases Option.map_eq_some_iff.mp read with ⟨later, isLater, rfl⟩
      rw [List.flatMap_cons, List.flatMap_cons,
        induction (List.forall_mem_cons.mp small).2 isLater]
      rfl
  | case3 high low rest isHigh isLow induction =>
      rcases Option.map_eq_some_iff.mp read with ⟨later, isLater, rfl⟩
      rw [List.forall_mem_cons, List.forall_mem_cons] at small
      rw [List.flatMap_cons, List.flatMap_cons, List.flatMap_cons,
        induction small.2.2 isLater, codeUnits_joinSurrogates isHigh isLow]
      rfl
  | case4 => cases read
  | case5 => cases read
  | case6 code low rest notHigh notLow induction =>
      rcases Option.map_eq_some_iff.mp read with ⟨later, isLater, rfl⟩
      rw [List.forall_mem_cons] at small
      rw [List.flatMap_cons, induction small.2 isLater, List.flatMap_cons,
        codeUnits_ofNat small.1 (Bool.eq_false_of_not_eq_true notHigh)
          (Bool.eq_false_of_not_eq_true notLow)]
      rfl
  | case7 => cases read
  | case8 code rest _ notSurrogate induction =>
      rcases Option.map_eq_some_iff.mp read with ⟨later, isLater, rfl⟩
      rw [Bool.not_eq_true, Bool.or_eq_false_iff] at notSurrogate
      rw [List.forall_mem_cons] at small
      rw [List.flatMap_cons, List.flatMap_cons, induction small.2 isLater,
        codeUnits_ofNat small.1 notSurrogate.1 notSurrogate.2]
      rfl

/-! ## Literals -/

def escapes : List (Char × Char) := [
  ('\x22', '\x22'), ('\\', '\\'), ('/', '/'), ('b', '\x08'), ('f', '\x0c'), ('n', '\n'),
  ('r', '\r'), ('t', '\t')]

def WritesHex (digit : Char) (value : Nat) : Prop :=
  value < 16 ∧ (digit = Nat.digitChar value ∨ digit = (Nat.digitChar value).toUpper)

/-- What stands between the quotes of a literal, and the code units that it spells. -/
inductive Spells : (literal : List Char) → (codes : List Nat) → Prop
  | nil : Spells [] []
  | plain {character : Char} {literal : List Char} {codes : List Nat}
      (noControl : 0x20 ≤ character.toNat) (noQuote : character ≠ '\x22')
      (noBackslash : character ≠ '\\') (rest : Spells literal codes) :
      Spells (character :: literal) (codeUnits character ++ codes)
  | escape {letter character : Char} {literal : List Char} {codes : List Nat}
      (listed : (letter, character) ∈ escapes) (rest : Spells literal codes) :
      Spells ('\\' :: letter :: literal) (codeUnits character ++ codes)
  | unit {first second third fourth : Char} {a b c d : Nat} {literal : List Char}
      {codes : List Nat} (isFirst : WritesHex first a) (isSecond : WritesHex second b)
      (isThird : WritesHex third c) (isFourth : WritesHex fourth d)
      (rest : Spells literal codes) :
      Spells ('\\' :: 'u' :: first :: second :: third :: fourth :: literal)
        ((((a * 16 + b) * 16 + c) * 16 + d) :: codes)

/-- The content that code units make up: a text, or none if they are those of no text. -/
inductive MakesUp (codes : List Nat) : (content : Option String) → Prop
  | text {characters : List Char} (same : codes = characters.flatMap codeUnits) :
      MakesUp codes (some (String.ofList characters))
  | broken (noText : ∀ characters : List Char, codes ≠ characters.flatMap codeUnits) :
      MakesUp codes none

def spelling (character : Char) : List Char :=
  if character.toNat < 0x20 then
    ['\\', 'u', '0', '0', Nat.digitChar (character.toNat / 16),
      Nat.digitChar (character.toNat % 16)]
  else if character = '\x22' ∨ character = '\\' then
    ['\\', character]
  else
    [character]

theorem spells_spelling (text : List Char) :
    Spells (text.flatMap spelling) (text.flatMap codeUnits) := by
  induction text with
  | nil => exact .nil
  | cons character text induction =>
      rw [List.flatMap_cons, List.flatMap_cons, spelling]
      split
      · rename_i control
        have digits : ((0 * 16 + 0) * 16 + character.toNat / 16) * 16 + character.toNat % 16 =
            character.toNat := by omega
        have zero : WritesHex '0' 0 := ⟨by decide, .inl rfl⟩
        have spelled := Spells.unit zero zero
          ⟨(by omega : character.toNat / 16 < 16), .inl rfl⟩
          ⟨(by omega : character.toNat % 16 < 16), .inl rfl⟩ induction
        rw [digits] at spelled
        rw [codeUnits_of_lt (by omega)]
        exact spelled
      · rename_i visible
        split
        · rename_i marked
          rcases marked with rfl | rfl
          · exact .escape List.mem_cons_self induction
          · exact .escape (List.mem_cons_of_mem _ List.mem_cons_self) induction
        · rename_i plain
          rw [not_or] at plain
          exact .plain (Nat.not_lt.mp visible) plain.1 plain.2 induction

theorem hexDigit?_of_writesHex {digit : Char} {value : Nat} (writes : WritesHex digit value) :
    hexDigit? digit = some value := by
  have small : ∀ value < 16, hexDigit? (Nat.digitChar value) = some value ∧
      hexDigit? (Nat.digitChar value).toUpper = some value := by
    decide
  rcases writes with ⟨inRange, rfl | rfl⟩
  · exact (small value inRange).1
  · exact (small value inRange).2

theorem escape?_of_mem_escapes {letter character : Char}
    (listed : (letter, character) ∈ escapes) : escape? letter = some character := by
  have all : ∀ pair ∈ escapes, escape? pair.1 = some pair.2 := by decide
  exact all (letter, character) listed

section Reading

variable {text behind : List Char} {elements : List Element}

theorem elements?_plain {character : Char} (noControl : 0x20 ≤ character.toNat)
    (noQuote : character ≠ '\x22') (noBackslash : character ≠ '\\')
    (read : elements? text = some (elements, behind)) :
    elements? (character :: text) = some (.char character :: elements, behind) := by
  have visible : (decide (character.toNat < 0x20) || character == '\\') = false := by
    rw [Bool.or_eq_false_iff, decide_eq_false_iff_not, beq_eq_false_iff_ne]
    exact ⟨Nat.not_lt.mpr noControl, noBackslash⟩
  rw [elements?]
  · rw [visible, read]
    rfl
  · exact fun same => noQuote same
  · exact fun _ _ _ _ _ same => absurd same noBackslash
  · exact fun _ _ same => absurd same noBackslash

theorem elements?_escape {letter character : Char} (listed : (letter, character) ∈ escapes)
    (read : elements? text = some (elements, behind)) :
    elements? ('\\' :: letter :: text) = some (.char character :: elements, behind) := by
  have isEscape := escape?_of_mem_escapes listed
  have noUnit : letter ≠ 'u' := by
    intro same
    rw [same] at isEscape
    cases isEscape
  rw [elements?]
  · rw [isEscape, read]
    rfl
  · exact fun _ _ _ _ _ same => absurd same noUnit

theorem elements?_unit {first second third fourth : Char} {a b c d : Nat}
    (isFirst : WritesHex first a) (isSecond : WritesHex second b) (isThird : WritesHex third c)
    (isFourth : WritesHex fourth d) (read : elements? text = some (elements, behind)) :
    elements? ('\\' :: 'u' :: first :: second :: third :: fourth :: text) =
      some (.unit (((a * 16 + b) * 16 + c) * 16 + d) :: elements, behind) := by
  have isUnit : codeUnit? first second third fourth =
      some (((a * 16 + b) * 16 + c) * 16 + d) := by
    rw [codeUnit?, hexDigit?_of_writesHex isFirst, hexDigit?_of_writesHex isSecond,
      hexDigit?_of_writesHex isThird, hexDigit?_of_writesHex isFourth]
    rfl
  rw [elements?, isUnit, read]
  rfl

end Reading

theorem exists_elements? {literal : List Char} {codes : List Nat} (spells : Spells literal codes)
    (behind : List Char) :
    ∃ elements : List Element, elements? (literal ++ '\x22' :: behind) = some (elements, behind) ∧
      elements.flatMap Element.units = codes ∧
      ∀ element ∈ elements, element.IsSmall := by
  induction spells with
  | nil => exact ⟨[], rfl, rfl, List.forall_mem_nil _⟩
  | @plain character _ _ noControl noQuote noBackslash _ induction =>
      rcases induction with ⟨elements, read, units, small⟩
      refine ⟨.char character :: elements, elements?_plain noControl noQuote noBackslash read, ?_,
        List.forall_mem_cons.mpr ⟨trivial, small⟩⟩
      rw [List.flatMap_cons, units, Element.units]
  | @escape _ character _ _ listed _ induction =>
      rcases induction with ⟨elements, read, units, small⟩
      refine ⟨.char character :: elements, elements?_escape listed read, ?_,
        List.forall_mem_cons.mpr ⟨trivial, small⟩⟩
      rw [List.flatMap_cons, units, Element.units]
  | @unit _ _ _ _ a b c d _ _ isFirst isSecond isThird isFourth _ induction =>
      rcases induction with ⟨elements, read, units, small⟩
      have isSmall : ((a * 16 + b) * 16 + c) * 16 + d < 0x10000 := by
        have firstTwo := And.intro isFirst.1 isSecond.1
        have lastTwo := And.intro isThird.1 isFourth.1
        omega
      refine ⟨_, elements?_unit isFirst isSecond isThird isFourth read, ?_,
        List.forall_mem_cons.mpr ⟨isSmall, small⟩⟩
      rw [List.flatMap_cons, units, Element.units, List.singleton_append]

theorem text?_of_spells {literal : List Char} {codes : List Nat} {content : Option String}
    (spells : Spells literal codes) (makesUp : MakesUp codes content) (behind : List Char) :
    ∃ elements, elements? (literal ++ '\x22' :: behind) = some (elements, behind) ∧
      (text? elements).map String.ofList = content := by
  rcases exists_elements? spells behind with ⟨elements, read, units, small⟩
  refine ⟨elements, read, ?_⟩
  cases makesUp with
  | text same => rw [text?_of_units (units.trans same), Option.map_some]
  | broken noText =>
      cases isText : text? elements with
      | none => rfl
      | some characters =>
          exact absurd (units.symm.trans (units_of_text? small isText)) (noText characters)

end ParamTypes.Json.Quoted
