import ParamTypes.Proofs.Text

/-!
Texts that differ in their runs of blanks only: where one has such a run, the other
has one too, of whatever length and kind.

What is cut off a text by a class of characters to which either all blanks belong or
none leaves texts that differ in the same way.
-/

namespace ParamTypes.Text

/-- The second text is the first with some runs of blanks exchanged for others. -/
inductive Respaced : (first second : List Char) → Prop
  | nil : Respaced [] []
  | keep {first second : List Char} (character : Char) (rest : Respaced first second) :
      Respaced (character :: first) (character :: second)
  | exchange {blanks others first second : List Char} (nonempty : blanks ≠ [])
      (areBlank : ∀ blank ∈ blanks, isBlank blank = true) (othersNonempty : others ≠ [])
      (othersAreBlank : ∀ blank ∈ others, isBlank blank = true)
      (rest : Respaced first second) : Respaced (blanks ++ first) (others ++ second)

namespace Respaced

variable {first second third fourth : List Char}

theorem refl (text : List Char) : Respaced text text := by
  induction text with
  | nil => exact .nil
  | cons character rest induction => exact .keep character induction

theorem symm (respaced : Respaced first second) : Respaced second first := by
  induction respaced with
  | nil => exact .nil
  | keep character rest induction => exact .keep character induction
  | exchange nonempty areBlank othersNonempty othersAreBlank rest induction =>
      exact .exchange othersNonempty othersAreBlank nonempty areBlank induction

theorem append (respaced : Respaced first second) (later : Respaced third fourth) :
    Respaced (first ++ third) (second ++ fourth) := by
  induction respaced with
  | nil => exact later
  | keep character rest induction => exact .keep character induction
  | exchange nonempty areBlank othersNonempty othersAreBlank rest induction =>
      rw [List.append_assoc, List.append_assoc]
      exact .exchange nonempty areBlank othersNonempty othersAreBlank induction

theorem of_blanks {blanks others : List Char} (nonempty : blanks ≠ [])
    (areBlank : ∀ blank ∈ blanks, isBlank blank = true) (othersNonempty : others ≠ [])
    (othersAreBlank : ∀ blank ∈ others, isBlank blank = true) : Respaced blanks others := by
  have exchanged := exchange nonempty areBlank othersNonempty othersAreBlank .nil
  rwa [List.append_nil, List.append_nil] at exchanged

theorem reverse (respaced : Respaced first second) :
    Respaced first.reverse second.reverse := by
  induction respaced with
  | nil => exact .nil
  | keep character rest induction =>
      rw [List.reverse_cons, List.reverse_cons]
      exact induction.append (refl [character])
  | exchange nonempty areBlank othersNonempty othersAreBlank rest induction =>
      rw [List.reverse_append, List.reverse_append]
      apply induction.append
      apply of_blanks
      · exact mt List.reverse_eq_nil_iff.mp nonempty
      · exact fun blank member => areBlank blank (List.mem_reverse.mp member)
      · exact mt List.reverse_eq_nil_iff.mp othersNonempty
      · exact fun blank member => othersAreBlank blank (List.mem_reverse.mp member)

/-! ## Characters -/

theorem eq_nil (respaced : Respaced [] second) : second = [] := by
  generalize same : ([] : List Char) = first at respaced
  cases respaced with
  | nil => rfl
  | keep character rest => cases same
  | exchange nonempty areBlank othersNonempty othersAreBlank rest =>
      exact absurd (List.append_eq_nil_iff.mp same.symm).1 nonempty

theorem eq_nil_iff (respaced : Respaced first second) : first = [] ↔ second = [] := by
  constructor
  · intro nothing
    rw [nothing] at respaced
    exact respaced.eq_nil
  · intro nothing
    rw [nothing] at respaced
    exact respaced.symm.eq_nil

theorem exists_cons {character : Char} (visible : isBlank character = false)
    (respaced : Respaced (character :: first) second) :
    ∃ rest, second = character :: rest ∧ Respaced first rest := by
  generalize same : character :: first = whole at respaced
  cases respaced with
  | nil => cases same
  | keep other rest =>
      cases same
      exact ⟨_, rfl, rest⟩
  | @exchange blanks others _ _ nonempty areBlank othersNonempty othersAreBlank rest =>
      rcases List.exists_cons_of_ne_nil nonempty with ⟨blank, more, rfl⟩
      cases same
      rw [areBlank character List.mem_cons_self] at visible
      cases visible

theorem head?_eq_iff {character : Char} (visible : isBlank character = false)
    (respaced : Respaced first second) :
    first.head? = some character ↔ second.head? = some character := by
  have forward {first second : List Char} (respaced : Respaced first second)
      (begins : first.head? = some character) : second.head? = some character := by
    rcases List.head?_eq_some_iff.mp begins with ⟨rest, rfl⟩
    rcases respaced.exists_cons visible with ⟨other, rfl, _⟩
    rfl
  exact ⟨forward respaced, forward respaced.symm⟩

theorem getLast?_eq_iff {character : Char} (visible : isBlank character = false)
    (respaced : Respaced first second) :
    first.getLast? = some character ↔ second.getLast? = some character := by
  rw [← List.head?_reverse, ← List.head?_reverse]
  exact respaced.reverse.head?_eq_iff visible

theorem mem_iff {character : Char} (visible : isBlank character = false)
    (respaced : Respaced first second) : character ∈ first ↔ character ∈ second := by
  have noBlank {blanks : List Char} (areBlank : ∀ blank ∈ blanks, isBlank blank = true) :
      character ∉ blanks := by
    intro member
    rw [areBlank character member] at visible
    cases visible
  induction respaced with
  | nil => rfl
  | keep other rest induction =>
      rw [List.mem_cons, List.mem_cons]
      exact or_congr Iff.rfl induction
  | exchange nonempty areBlank othersNonempty othersAreBlank rest induction =>
      rw [List.mem_append, List.mem_append]
      exact or_congr (iff_of_false (noBlank areBlank) (noBlank othersAreBlank)) induction

theorem eq_of_visible (respaced : Respaced first second)
    (visible : ∀ character ∈ first, isBlank character = false) : first = second := by
  induction respaced with
  | nil => rfl
  | keep character rest induction =>
      rw [induction (List.forall_mem_cons.mp visible).2]
  | exchange nonempty areBlank othersNonempty othersAreBlank rest induction =>
      rcases List.exists_mem_of_ne_nil _ nonempty with ⟨blank, member⟩
      have shown := visible blank (List.mem_append_left _ member)
      rw [areBlank blank member] at shown
      cases shown

theorem eq_or_not {holds : List Char → Prop}
    (noBlanks : ∀ text, holds text → ∀ character ∈ text, isBlank character = false)
    (respaced : Respaced first second) : first = second ∨ ¬ holds first ∧ ¬ holds second := by
  by_cases held : holds first
  · exact .inl (respaced.eq_of_visible (noBlanks first held))
  · by_cases otherHeld : holds second
    · exact .inl (respaced.symm.eq_of_visible (noBlanks second otherHeld)).symm
    · exact .inr ⟨held, otherHeld⟩

/-! ## Runs of a class -/

/-- Whether a class of characters does not tell blanks apart. -/
def TreatsAlike (holds : Char → Bool) : Prop :=
  ∃ value, ∀ blank, isBlank blank = true → holds blank = value

theorem treatsAlike_isBlank : TreatsAlike isBlank :=
  ⟨true, fun _ blank => blank⟩

theorem ne_of_isBlank {character blank : Char} (visible : isBlank character = false)
    (isBlankHere : isBlank blank = true) : blank ≠ character := by
  rintro rfl
  rw [visible] at isBlankHere
  cases isBlankHere

theorem treatsAlike_beq {character : Char} (visible : isBlank character = false) :
    TreatsAlike (· == character) :=
  ⟨false, fun _ isBlankHere => beq_false_of_ne (ne_of_isBlank visible isBlankHere)⟩

theorem treatsAlike_ne {character : Char} (visible : isBlank character = false) :
    TreatsAlike (· ≠ character) :=
  ⟨true, fun _ isBlankHere => decide_eq_true (ne_of_isBlank visible isBlankHere)⟩

theorem TreatsAlike.not {holds : Char → Bool} (alike : TreatsAlike holds) :
    TreatsAlike (!holds ·) := by
  rcases alike with ⟨value, isValue⟩
  exact ⟨!value, fun blank isBlankHere => congrArg (!·) (isValue blank isBlankHere)⟩

theorem takeWhile_dropWhile {holds : Char → Bool} (alike : TreatsAlike holds)
    (respaced : Respaced first second) :
    Respaced (first.takeWhile holds) (second.takeWhile holds) ∧
      Respaced (first.dropWhile holds) (second.dropWhile holds) := by
  rcases alike with ⟨value, isValue⟩
  induction respaced with
  | nil => exact ⟨.nil, .nil⟩
  | keep character rest induction =>
      cases held : holds character with
      | true =>
          simp only [List.takeWhile_cons, List.dropWhile_cons, held, if_true]
          exact ⟨.keep character induction.1, induction.2⟩
      | false =>
          simp only [List.takeWhile_cons, List.dropWhile_cons, held, Bool.false_eq_true, if_false]
          exact ⟨.nil, .keep character rest⟩
  | @exchange blanks others _ _ nonempty areBlank othersNonempty othersAreBlank rest induction =>
      cases value with
      | true =>
          have taken : ∀ blank ∈ blanks, holds blank = true := fun blank member =>
            isValue blank (areBlank blank member)
          have othersTaken : ∀ blank ∈ others, holds blank = true := fun blank member =>
            isValue blank (othersAreBlank blank member)
          rw [List.takeWhile_append_of_pos taken, List.takeWhile_append_of_pos othersTaken,
            List.dropWhile_append_of_pos taken, List.dropWhile_append_of_pos othersTaken]
          exact ⟨.exchange nonempty areBlank othersNonempty othersAreBlank induction.1,
            induction.2⟩
      | false =>
          -- Neither run is empty, so both texts stop here.
          rcases List.exists_cons_of_ne_nil nonempty with ⟨blank, more, rfl⟩
          rcases List.exists_cons_of_ne_nil othersNonempty with ⟨other, others, rfl⟩
          have stops := isValue blank (areBlank blank List.mem_cons_self)
          have othersStop := isValue other (othersAreBlank other List.mem_cons_self)
          simp only [List.cons_append, List.takeWhile_cons, List.dropWhile_cons, stops,
            othersStop, Bool.false_eq_true, if_false]
          exact ⟨.nil, .exchange nonempty areBlank othersNonempty othersAreBlank rest⟩

theorem takeWhile {holds : Char → Bool} (alike : TreatsAlike holds)
    (respaced : Respaced first second) :
    Respaced (first.takeWhile holds) (second.takeWhile holds) :=
  (respaced.takeWhile_dropWhile alike).1

theorem dropWhile {holds : Char → Bool} (alike : TreatsAlike holds)
    (respaced : Respaced first second) :
    Respaced (first.dropWhile holds) (second.dropWhile holds) :=
  (respaced.takeWhile_dropWhile alike).2

theorem dropEndWhile {holds : Char → Bool} (alike : TreatsAlike holds)
    (respaced : Respaced first second) :
    Respaced (Text.dropEndWhile holds first) (Text.dropEndWhile holds second) :=
  (respaced.reverse.dropWhile alike).reverse

theorem trimStart (respaced : Respaced first second) :
    Respaced (Text.trimStart first) (Text.trimStart second) :=
  respaced.dropWhile treatsAlike_isBlank

theorem trimEnd (respaced : Respaced first second) :
    Respaced (Text.trimEnd first) (Text.trimEnd second) :=
  respaced.dropEndWhile treatsAlike_isBlank

theorem trim (respaced : Respaced first second) :
    Respaced (Text.trim first) (Text.trim second) :=
  respaced.trimStart.trimEnd

theorem firstWord_eq (respaced : Respaced first second) :
    firstWord first = firstWord second := by
  have words := respaced.takeWhile treatsAlike_isBlank.not
  apply words.eq_of_visible
  intro character member
  simpa using List.mem_takeWhile_imp member

/-! ## Given beginnings and endings -/

abbrev Both : (first second : Option (List Char)) → Prop :=
  Option.Rel Respaced

theorem Both.eq_none_iff {first second : Option (List Char)} (both : Both first second) :
    first = none ↔ second = none := by
  cases both with
  | none => rfl
  | some _ => simp

theorem stripStart? {beginning : List Char}
    (visible : ∀ character ∈ beginning, isBlank character = false)
    (respaced : Respaced first second) :
    Both (Text.stripStart? beginning first) (Text.stripStart? beginning second) := by
  have forward {beginning first second rest : List Char}
      (visible : ∀ character ∈ beginning, isBlank character = false)
      (respaced : Respaced first second) (parts : first = beginning ++ rest) :
      ∃ other, second = beginning ++ other ∧ Respaced rest other := by
    induction beginning generalizing first second with
    | nil =>
        cases parts
        exact ⟨second, rfl, respaced⟩
    | cons expected beginning induction =>
        rw [List.forall_mem_cons] at visible
        cases parts
        rcases respaced.exists_cons visible.1 with ⟨other, rfl, later⟩
        rcases induction visible.2 later rfl with ⟨other, rfl, rest⟩
        exact ⟨other, rfl, rest⟩
  cases stripped : Text.stripStart? beginning first with
  | some rest =>
      rcases forward visible respaced (stripStart?_eq_some_iff.mp stripped) with
        ⟨other, parts, later⟩
      rw [stripStart?_eq_some_iff.mpr parts]
      exact .some later
  | none =>
      cases otherStripped : Text.stripStart? beginning second with
      | none => exact .none
      | some other =>
          rcases forward visible respaced.symm (stripStart?_eq_some_iff.mp otherStripped) with
            ⟨rest, parts, _⟩
          rw [stripStart?_eq_some_iff.mpr parts] at stripped
          cases stripped

theorem stripEnd? {ending : List Char}
    (visible : ∀ character ∈ ending, isBlank character = false)
    (respaced : Respaced first second) :
    Both (Text.stripEnd? ending first) (Text.stripEnd? ending second) := by
  have reversed : ∀ character ∈ ending.reverse, isBlank character = false :=
    fun character member => visible character (List.mem_reverse.mp member)
  have stripped := respaced.reverse.stripStart? reversed
  rw [Text.stripEnd?, Text.stripEnd?]
  generalize Text.stripStart? ending.reverse first.reverse = rest at stripped ⊢
  generalize Text.stripStart? ending.reverse second.reverse = other at stripped ⊢
  cases stripped with
  | some later => exact .some later.reverse
  | none => exact .none

end Respaced

end ParamTypes.Text
