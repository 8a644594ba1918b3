import ParamTypes.Comment.ParamTag
import ParamTypes.Proofs.TypeExpr.Brackets

/-!
Names as tags write them: an identifier behind the markers of references, of
variadic parameters and of variables, and brackets around an optional one.
Reading takes all of this off again.
-/

namespace ParamTypes.ParamTag

open Text

/-! ## Characters of names -/

def isNameCharacter (character : Char) : Bool :=
  isIdentifierPart character || character ∈ ['&', '.', '$']

theorem isNameCharacter_of_isIdentifierPart {character : Char}
    (part : isIdentifierPart character = true) : isNameCharacter character = true := by
  rw [isNameCharacter, part, Bool.true_or]

theorem isNameCharacter_of_mem {character : Char} (marker : character ∈ ['&', '.', '$']) :
    isNameCharacter character = true := by
  rw [isNameCharacter, decide_eq_true marker, Bool.or_true]

def delimiters : List Char :=
  ['[', ']', '=', '\x60', '\x7b', '<', '>', '(', ')']

theorem isNameCharacter_of_mem_delimiters {character : Char}
    (member : character ∈ delimiters) : isNameCharacter character = false :=
  eq_false_of_mem (by decide +kernel) member

theorem ne_of_isNameCharacter {character delimiter : Char}
    (named : isNameCharacter character = true) (member : delimiter ∈ delimiters) :
    character ≠ delimiter := by
  intro same
  rw [same, isNameCharacter_of_mem_delimiters member] at named
  cases named

theorem isBlank_of_isNameCharacter {character : Char}
    (named : isNameCharacter character = true) : isBlank character = false := by
  rw [isNameCharacter, Bool.or_eq_true, decide_eq_true_eq] at named
  rcases named with part | marker
  · exact isBlank_of_isIdentifierPart part
  · exact eq_false_of_mem (by decide) marker

theorem isPlain_of_isNameCharacter {character : Char}
    (named : isNameCharacter character = true) : TypeExpr.isPlain character = true :=
  TypeExpr.isPlain_of_holds (by decide +kernel) named

/-! ## Marked names -/

def dotsIf (isVariadic : Bool) : List Char :=
  if isVariadic then ['.', '.', '.'] else []

theorem mem_dotsIf {isVariadic : Bool} {character : Char}
    (member : character ∈ dotsIf isVariadic) : character = '.' := by
  cases isVariadic with
  | false => cases member
  | true => simpa [dotsIf] using member

/-- An identifier with the markers in front of it: ampersands, the dots of a
variadic parameter, ampersands again, and dollar signs. -/
structure MarkedName where
  name : List Char
  isName : isIdentifier name = true
  ampersands : Nat
  isVariadic : Bool
  innerAmpersands : Nat
  dollars : Nat

namespace MarkedName

def inner (marked : MarkedName) : List Char :=
  List.replicate marked.innerAmpersands '&' ++
    (List.replicate marked.dollars '$' ++ marked.name)

def text (marked : MarkedName) : List Char :=
  List.replicate marked.ampersands '&' ++ (dotsIf marked.isVariadic ++ marked.inner)

example :
    text ⟨"rest".toList, by decide +kernel, 1, true, 0, 1⟩ = "&...$rest".toList := by
  decide

theorem isNameCharacter_of_mem_text (marked : MarkedName) :
    ∀ character ∈ marked.text, isNameCharacter character = true := by
  intro character member
  simp only [text, inner, List.mem_append, List.mem_replicate] at member
  rcases member with ⟨_, rfl⟩ | dot | ⟨_, rfl⟩ | ⟨_, rfl⟩ | inName
  · exact isNameCharacter_of_mem (by decide)
  · rw [mem_dotsIf dot]
    exact isNameCharacter_of_mem (by decide)
  · exact isNameCharacter_of_mem (by decide)
  · exact isNameCharacter_of_mem (by decide)
  · exact isNameCharacter_of_isIdentifierPart (isIdentifierPart_of_mem marked.isName inName)

theorem text_ne_nil (marked : MarkedName) : marked.text ≠ [] := by
  have named := ne_nil_of_isIdentifier marked.isName
  simp [text, inner, named]

theorem ne_of_mem_head?_name (marked : MarkedName) {first : Char}
    (begins : first ∈ marked.name.head?) (marker : Char) (member : marker ∈ punctuation) :
    first ≠ marker := by
  intro same
  have part := isIdentifierPart_of_mem marked.isName (List.mem_of_mem_head? begins)
  rw [same, isIdentifierPart_of_mem_punctuation member] at part
  cases part

theorem dropWhile_dollars_name (marked : MarkedName) :
    (List.replicate marked.dollars '$' ++ marked.name).dropWhile (· == '$') =
      marked.name := by
  rw [dropWhile_replicate_append, dropWhile_of_head]
  intro first begins
  simpa using marked.ne_of_mem_head?_name begins '$' (by decide)

theorem dropWhile_inner (marked : MarkedName) :
    marked.inner.dropWhile (· == '&') =
      List.replicate marked.dollars '$' ++ marked.name := by
  rw [inner, dropWhile_replicate_append, dropWhile_of_head]
  intro first begins
  cases dollars : marked.dollars with
  | zero =>
      rw [dollars] at begins
      simpa using marked.ne_of_mem_head?_name begins '&' (by decide)
  | succ count =>
      rw [dollars] at begins
      cases begins
      decide

theorem stripStart?_dollars_name (marked : MarkedName) :
    stripStart? ['.', '.', '.'] (List.replicate marked.dollars '$' ++ marked.name) = none := by
  rw [Option.eq_none_iff_forall_ne_some]
  intro rest begins
  rw [stripStart?_eq_some_iff] at begins
  cases dollars : marked.dollars with
  | zero =>
      rw [dollars] at begins
      have dotted : '.' ∈ marked.name.head? := by
        rw [← List.nil_append marked.name]
        exact begins ▸ rfl
      exact marked.ne_of_mem_head?_name dotted '.' (by decide) rfl
  | succ count =>
      rw [dollars] at begins
      cases begins

theorem dropWhile_text (marked : MarkedName) :
    marked.text.dropWhile (· == '&') =
      if marked.isVariadic then ['.', '.', '.'] ++ marked.inner
      else List.replicate marked.dollars '$' ++ marked.name := by
  rw [text, dropWhile_replicate_append]
  cases marked.isVariadic with
  | true => rfl
  | false => exact marked.dropWhile_inner

theorem isNameToken_text (marked : MarkedName)
    (isMarked : marked.isVariadic = true ∨ 0 < marked.dollars) :
    isNameToken marked.text = true := by
  rw [isNameToken, dropWhile_text]
  cases variadic : marked.isVariadic with
  | true =>
      have begins : stripStart? ['.', '.', '.'] (['.', '.', '.'] ++ marked.inner) =
          some marked.inner :=
        stripStart?_eq_some_iff.mpr rfl
      simp only [if_true, begins, Option.isSome_some, Bool.or_true]
  | false =>
      rcases isMarked with isVariadic | positive
      · rw [variadic] at isVariadic
        cases isVariadic
      · rcases Nat.exists_eq_succ_of_ne_zero (Nat.ne_of_gt positive) with ⟨count, dollars⟩
        rw [dollars]
        rfl

end MarkedName

/-! ## Brackets around a name -/

inductive Wrapping
  | plain
  | optional
  | withDefault (value : List Char) (isWord : ∀ character ∈ value, isBlank character = false)

namespace Wrapping

def opening : Wrapping → List Char
  | .plain => []
  | .optional => ['[']
  | .withDefault _ _ => ['[']

def closing : Wrapping → List Char
  | .plain => []
  | .optional => [']']
  | .withDefault value _ => '=' :: value ++ [']']

def wrap (wrapping : Wrapping) (text : List Char) : List Char :=
  wrapping.opening ++ (text ++ wrapping.closing)

example :
    wrap (.withDefault "null".toList fun _ => eq_false_of_mem (by decide)) "$x".toList =
      "[$x=null]".toList := by
  decide

theorem wrap_plain (text : List Char) : wrap .plain text = text := by
  simp [wrap, opening, closing]

theorem wrap_ne_nil (wrapping : Wrapping) (marked : MarkedName) :
    wrapping.wrap marked.text ≠ [] := by
  simp [wrap, marked.text_ne_nil]

theorem isBlank_of_mem_wrap (wrapping : Wrapping) (marked : MarkedName) :
    ∀ character ∈ wrapping.wrap marked.text, isBlank character = false := by
  have word : ∀ character ∈ marked.text, isBlank character = false := fun character member =>
    isBlank_of_isNameCharacter (marked.isNameCharacter_of_mem_text character member)
  intro character member
  cases wrapping with
  | plain =>
      rw [wrap_plain] at member
      exact word character member
  | optional =>
      simp only [wrap, opening, closing, List.mem_append, List.mem_singleton] at member
      rcases member with rfl | inText | rfl
      · decide
      · exact word character inText
      · decide
  | withDefault value isWord =>
      simp only [wrap, opening, closing, List.mem_append, List.mem_cons, List.not_mem_nil,
        or_false] at member
      rcases member with rfl | inText | (rfl | inValue) | rfl
      · decide
      · exact word character inText
      · decide
      · exact isWord character inValue
      · decide

theorem firstWord_wrap (wrapping : Wrapping) (marked : MarkedName) {blanks behind : List Char}
    (areBlank : ∀ blank ∈ blanks, isBlank blank = true)
    (stops : ∀ character ∈ behind.head?, isBlank character = true) :
    firstWord (trimStart (blanks ++ (wrapping.wrap marked.text ++ behind))) =
      wrapping.wrap marked.text := by
  have word := wrapping.isBlank_of_mem_wrap marked
  rw [trimStart_append areBlank, trimStart_of_head, firstWord, takeWhile_append_of_head]
  · intro character member
    simp [word character member]
  · intro character isNext
    simp [stops character isNext]
  · intro character isFirst
    rw [List.head?_append_of_ne_nil _ (wrapping.wrap_ne_nil marked)] at isFirst
    exact word character (List.mem_of_mem_head? isFirst)

end Wrapping

/-! ## Reading -/

theorem unwrapName_append (opening closing behind : List Char) {text : List Char}
    (opens : ∀ character ∈ opening, (character == '[') = true)
    (named : ∀ character ∈ text, isNameCharacter character = true) (nonempty : text ≠ [])
    (closes : ∀ character ∈ closing, (character == ']') = true)
    (stops : ∀ character ∈ behind.head?, character = '=') :
    unwrapName (opening ++ ((text ++ closing) ++ behind)) = text := by
  have apart (delimiter : Char) (member : delimiter ∈ delimiters) :
      ∀ character ∈ text, (character == delimiter) = false := fun character inText =>
    beq_false_of_ne (ne_of_isNameCharacter (named character inText) member)
  have opened : (opening ++ ((text ++ closing) ++ behind)).dropWhile (· == '[') =
      (text ++ closing) ++ behind := by
    apply dropWhile_append_of_head opens
    intro first begins
    rw [List.append_assoc, List.head?_append_of_ne_nil _ nonempty] at begins
    exact apart '[' (by decide) first (List.mem_of_mem_head? begins)
  have ended : ((text ++ closing) ++ behind).takeWhile (· ≠ '=') = text ++ closing := by
    apply takeWhile_append_of_head
    · intro character member
      rcases List.mem_append.mp member with inText | inClosing
      · simpa using apart '=' (by decide) character inText
      · rw [beq_iff_eq.mp (closes character inClosing)]
        decide
    · intro character begins
      rw [stops character begins]
      decide
  have closed : dropEndWhile (· == ']') (text ++ closing) = text := by
    rw [dropEndWhile_append_of_all closes, dropEndWhile_of_last]
    exact fun last ends => apart ']' (by decide) last (List.mem_of_getLast? ends)
  have unquoted : text.dropWhile (· == '\x60') = text :=
    dropWhile_of_head fun first begins =>
      apart '\x60' (by decide) first (List.mem_of_mem_head? begins)
  rw [unwrapName, opened, ended, closed, unquoted]
  exact dropEndWhile_of_last fun last ends =>
    apart '\x60' (by decide) last (List.mem_of_getLast? ends)

theorem unwrapName_wrap (wrapping : Wrapping) (marked : MarkedName) :
    unwrapName (wrapping.wrap marked.text) = marked.text := by
  have named := marked.isNameCharacter_of_mem_text
  have nonempty := marked.text_ne_nil
  cases wrapping with
  | plain =>
      have found := unwrapName_append [] [] [] (by simp) named nonempty (by simp) (by simp)
      simpa [Wrapping.wrap, Wrapping.opening, Wrapping.closing] using found
  | optional =>
      have found := unwrapName_append ['['] [']'] [] (by simp) named nonempty (by simp) (by simp)
      simpa [Wrapping.wrap, Wrapping.opening, Wrapping.closing] using found
  | withDefault value isWord =>
      have found := unwrapName_append ['['] [] ('=' :: value ++ [']']) (by simp) named nonempty
        (by simp) (by simp)
      simpa [Wrapping.wrap, Wrapping.opening, Wrapping.closing] using found

theorem readName_wrap (wrapping : Wrapping) (marked : MarkedName) :
    readName (wrapping.wrap marked.text) = (marked.name, marked.isVariadic) := by
  rw [readName, unwrapName_wrap, MarkedName.dropWhile_text]
  cases marked.isVariadic with
  | true =>
      have begins : stripStart? ['.', '.', '.'] (['.', '.', '.'] ++ marked.inner) =
          some marked.inner :=
        stripStart?_eq_some_iff.mpr rfl
      simp only [if_true, begins, marked.dropWhile_inner, marked.dropWhile_dollars_name]
  | false =>
      have kept : (List.replicate marked.dollars '$' ++ marked.name).dropWhile (· == '&') =
          List.replicate marked.dollars '$' ++ marked.name := by
        rw [← marked.dropWhile_inner, List.dropWhile_idempotent]
      simp only [Bool.false_eq_true, if_false, marked.stripStart?_dollars_name, kept,
        marked.dropWhile_dollars_name]

end ParamTypes.ParamTag
