import Mathlib.Data.List.Basic
import ParamTypes.Diagnostic.Template

/-!
Templates as slots and the characters between them, and what filling one slot after another
makes of them.

To fill all slots at once is what a template asks for. One after another, the slots in an
argument are filled too, as far as their turn is still to come (`fill_eq`); arguments without
braces bring in no slots (`fill_eq_fillAtOnce`).
-/

namespace ParamTypes.Template

/-! ## Slots -/

theorem slot_eq (number : Nat) : slot number = '\x7b' :: (Nat.toDigits 10 number ++ ['\x7d']) := by
  rw [slot, Nat.toList_repr]
  rfl

theorem slot_ne_nil (number : Nat) : slot number ≠ [] :=
  List.cons_ne_nil _ _

theorem isDigit_of_mem_toDigits {number : Nat} :
    ∀ digit ∈ Nat.toDigits 10 number, digit.isDigit = true :=
  fun _ => Nat.isDigit_of_mem_toDigits (by decide) (by decide)

theorem not_mem_tail_slot (number : Nat) : '\x7b' ∉ (slot number).tail := by
  rw [slot_eq, List.tail_cons, List.mem_append, not_or]
  refine ⟨fun member => ?_, by decide⟩
  exact Bool.noConfusion (isDigit_of_mem_toDigits _ member)

def slotAt? (text : List Char) : Option Nat :=
  let number := Nat.ofDigitChars 10 ((text.drop 1).takeWhile Char.isDigit) 0
  if slot number <+: text then some number else none

example : slotAt? "\x7b12\x7d34".toList = some 12 := by decide

example : slotAt? "\x7b01\x7d".toList = none := by decide

theorem slotAt?_eq_some_iff {text : List Char} {number : Nat} :
    slotAt? text = some number ↔ slot number <+: text := by
  rw [slotAt?]
  constructor
  · intro found
    split at found
    · cases found
      assumption
    · cases found
  · rintro ⟨rest, rfl⟩
    have digits : (((slot number ++ rest).drop 1).takeWhile Char.isDigit) =
        Nat.toDigits 10 number := by
      rw [slot_eq, List.cons_append, List.drop_one, List.tail_cons, List.append_assoc,
        List.takeWhile_append_of_pos isDigit_of_mem_toDigits, List.singleton_append,
        List.takeWhile_cons_of_neg (by decide), List.append_nil]
    rw [digits, Nat.ofDigitChars_ten_toDigits, if_pos (List.prefix_append _ _)]

theorem number_eq_of_slots {number other : Nat} {text : List Char} (first : slot number <+: text)
    (second : slot other <+: text) : number = other := by
  rw [← slotAt?_eq_some_iff] at first second
  exact Option.some.inj (first.symm.trans second)

/-! ## Parts -/

/-- A part of a template: a slot, or a character that belongs to none. -/
inductive Part
  | slot (number : Nat)
  | text (character : Char)
deriving DecidableEq

namespace Part

def number? : Part → Option Nat
  | slot number => some number
  | text _ => none

def character? : Part → Option Char
  | slot _ => none
  | text character => some character

def chars : Part → List Char
  | slot number => Template.slot number
  | text character => [character]

def filled (given : Nat → Option String) : Part → List Char
  | slot number => ((given number).map String.toList).getD (Template.slot number)
  | text character => [character]

def replaced (number : Nat) (others : List Part) : Part → List Part
  | slot other => if other = number then others else [slot other]
  | text character => [text character]

end Part

def written (parts : List Part) : List Char :=
  parts.flatMap Part.chars

theorem written_cons (part : Part) (parts : List Part) :
    written (part :: parts) = part.chars ++ written parts :=
  List.flatMap_cons

theorem written_singleton (part : Part) : written [part] = part.chars :=
  List.flatMap_singleton _ _

theorem written_append (parts others : List Part) :
    written (parts ++ others) = written parts ++ written others :=
  List.flatMap_append

def partsFrom : (skipped : Nat) → (text : List Char) → List Part
  | _, [] => []
  | skipped + 1, _ :: rest => partsFrom skipped rest
  | 0, character :: rest =>
      match slotAt? (character :: rest) with
      | some number => .slot number :: partsFrom ((slot number).length - 1) rest
      | none => .text character :: partsFrom 0 rest

def parts (text : List Char) : List Part :=
  partsFrom 0 text

theorem written_partsFrom (skipped : Nat) (text : List Char) :
    written (partsFrom skipped text) = text.drop skipped := by
  induction text generalizing skipped with
  | nil => simp [partsFrom, written]
  | cons character rest induction =>
      cases skipped with
      | succ skipped => exact induction skipped
      | zero =>
          rw [partsFrom]
          split
          · rename_i number found
            have whole := List.prefix_iff_eq_append.mp (slotAt?_eq_some_iff.mp found)
            rw [written_cons, induction, List.drop_zero, ← whole]
            simp [Part.chars, slot]
          · rw [written_cons, induction]
            rfl

theorem written_parts (text : List Char) : written (parts text) = text :=
  written_partsFrom 0 text

/-- Whether every slot that can be seen in a text is one of its parts. -/
def IsSettled : List Part → Prop
  | [] => True
  | .slot _ :: rest => IsSettled rest
  | .text character :: rest =>
      (∀ number, ¬ slot number <+: character :: written rest) ∧ IsSettled rest

theorem isSettled_partsFrom (skipped : Nat) (text : List Char) :
    IsSettled (partsFrom skipped text) := by
  induction text generalizing skipped with
  | nil => simp [partsFrom, IsSettled]
  | cons character rest induction =>
      cases skipped with
      | succ skipped => exact induction skipped
      | zero =>
          rw [partsFrom]
          split
          · exact induction _
          · rename_i noSlot
            refine ⟨fun number begins => ?_, induction 0⟩
            rw [written_partsFrom, List.drop_zero, ← slotAt?_eq_some_iff, noSlot] at begins
            cases begins

/-- Parts whose braces all belong to slots. -/
def IsClean (parts : List Part) : Prop :=
  .text '\x7b' ∉ parts

instance (parts : List Part) : Decidable (IsClean parts) :=
  inferInstanceAs (Decidable (.text '\x7b' ∉ parts))

theorem IsClean.isSettled {parts : List Part} (clean : IsClean parts) : IsSettled parts := by
  induction parts with
  | nil => trivial
  | cons part parts induction =>
      rw [IsClean, List.mem_cons, not_or] at clean
      cases part with
      | slot number => exact induction clean.2
      | text character =>
          refine ⟨fun number begins => ?_, induction clean.2⟩
          rw [slot_eq, List.cons_prefix_cons] at begins
          exact clean.1 (by rw [begins.1])

/-! ## Filling one slot -/

section

variable {pattern : List Char} (replacement : List Char)

theorem replaceFrom_skip (skipped rest : List Char) :
    replaceFrom pattern replacement skipped.length (skipped ++ rest) =
      replaceFrom pattern replacement 0 rest := by
  induction skipped with
  | nil => rfl
  | cons character skipped induction => exact induction

theorem replaceFrom_matched (nonempty : pattern ≠ []) (rest : List Char) :
    replaceFrom pattern replacement 0 (pattern ++ rest) =
      replacement ++ replaceFrom pattern replacement 0 rest := by
  rcases List.exists_cons_of_ne_nil nonempty with ⟨first, others, rfl⟩
  have begins : (first :: others).isPrefixOf (first :: (others ++ rest)) = true :=
    List.isPrefixOf_iff_prefix.mpr (List.prefix_append _ _)
  rw [List.cons_append, replaceFrom, if_pos begins, List.length_cons, Nat.add_sub_cancel,
    replaceFrom_skip]

theorem replaceFrom_unmatched {character : Char} {rest : List Char}
    (noMatch : ¬ pattern <+: character :: rest) :
    replaceFrom pattern replacement 0 (character :: rest) =
      character :: replaceFrom pattern replacement 0 rest := by
  rw [replaceFrom, if_neg (mt List.isPrefixOf_iff_prefix.mp noMatch)]

end

theorem replaceFrom_append_of_not_mem {text : List Char} (noBrace : '\x7b' ∉ text) (number : Nat)
    (replacement rest : List Char) :
    replaceFrom (slot number) replacement 0 (text ++ rest) =
      text ++ replaceFrom (slot number) replacement 0 rest := by
  induction text with
  | nil => rfl
  | cons character text induction =>
      rw [List.mem_cons, not_or] at noBrace
      have noSlot : ¬ slot number <+: character :: (text ++ rest) := by
        rw [slot_eq, List.cons_prefix_cons]
        exact fun begins => noBrace.1 begins.1
      rw [List.cons_append, replaceFrom_unmatched _ noSlot, induction noBrace.2,
        List.cons_append]

theorem replaceFrom_other_slot {number other : Nat} (different : other ≠ number)
    (replacement rest : List Char) :
    replaceFrom (slot number) replacement 0 (slot other ++ rest) =
      slot other ++ replaceFrom (slot number) replacement 0 rest := by
  have noSlot : ¬ slot number <+: slot other ++ rest := fun begins =>
    different (number_eq_of_slots (List.prefix_append _ _) begins)
  have noBrace := not_mem_tail_slot other
  rw [slot_eq other, List.cons_append] at noSlot ⊢
  rw [slot_eq other, List.tail_cons] at noBrace
  rw [replaceFrom_unmatched _ noSlot, replaceFrom_append_of_not_mem noBrace,
    List.cons_append]

/-- In settled parts nothing but the slots of a number is replaced. -/
theorem replaceAll_written {parts : List Part} (settled : IsSettled parts) (number : Nat)
    (others : List Part) :
    replaceAll (slot number) (written others) (written parts) =
      written (parts.flatMap (Part.replaced number others)) := by
  rw [replaceAll]
  induction parts with
  | nil => rfl
  | cons part parts induction =>
      rw [written_cons, List.flatMap_cons, written_append]
      cases part with
      | slot other =>
          rw [Part.chars, Part.replaced]
          split
          · rename_i same
            rw [same, replaceFrom_matched _ (slot_ne_nil number), induction settled]
          · rename_i different
            rw [replaceFrom_other_slot different, induction settled, written_singleton, Part.chars]
      | text character =>
          rw [Part.chars, Part.replaced, List.singleton_append,
            replaceFrom_unmatched _ (settled.1 number), induction settled.2,
            written_singleton, Part.chars, List.singleton_append]

/-! ## Filling slot after slot -/

def givenFrom (number : Nat) (arguments : List String) (slot : Nat) : Option String :=
  if slot < number then none else arguments[slot - number]?

theorem givenFrom_nil (number : Nat) : givenFrom number [] = fun _ => none := by
  funext slot
  simp [givenFrom]

theorem givenFrom_cons_self (number : Nat) (argument : String) (arguments : List String) :
    givenFrom number (argument :: arguments) number = some argument := by
  simp [givenFrom]

theorem givenFrom_cons_of_ne {number slot : Nat} (different : slot ≠ number) (argument : String)
    (arguments : List String) :
    givenFrom number (argument :: arguments) slot = givenFrom (number + 1) arguments slot := by
  rw [givenFrom, givenFrom]
  by_cases early : slot < number
  · rw [if_pos early, if_pos (by omega)]
  · have offset : slot - number = slot - (number + 1) + 1 := by omega
    rw [if_neg early, if_neg (by omega), offset, List.getElem?_cons_succ]

/-- Arguments from `number` on, each with its own slots filled that have their turn later. -/
def resolveFrom (number : Nat) : (arguments : List String) → List String
  | [] => []
  | argument :: arguments =>
      let later := resolveFrom (number + 1) arguments
      let text := (parts argument.toList).flatMap (Part.filled (givenFrom (number + 1) later))
      String.ofList text :: later

theorem flatMap_filled_none (parts : List Part) :
    parts.flatMap (Part.filled fun _ => none) = written parts := by
  apply List.flatMap_congr
  intro part _
  cases part <;> rfl

theorem IsClean.flatMap_replaced {parts others : List Part} (clean : IsClean parts)
    (cleanOthers : IsClean others) (number : Nat) :
    IsClean (parts.flatMap (Part.replaced number others)) := by
  intro member
  rcases List.mem_flatMap.mp member with ⟨part, isPart, inPart⟩
  cases part with
  | slot other =>
      rw [Part.replaced] at inPart
      split at inPart
      · exact cleanOthers inPart
      · cases List.mem_singleton.mp inPart
  | text character =>
      rw [Part.replaced, List.mem_singleton] at inPart
      exact clean (inPart ▸ isPart)

theorem flatMap_filled_replaced (parts : List Part) (number : Nat) (argument : String)
    (arguments : List String) :
    (parts.flatMap (Part.replaced number (Template.parts argument.toList))).flatMap
        (Part.filled (givenFrom (number + 1) (resolveFrom (number + 1) arguments))) =
      parts.flatMap
        (Part.filled (givenFrom number (resolveFrom number (argument :: arguments)))) := by
  rw [List.flatMap_assoc]
  apply List.flatMap_congr
  intro part _
  cases part with
  | text character => rfl
  | slot other =>
      by_cases same : other = number
      · rw [Part.replaced, if_pos same, same, resolveFrom, Part.filled, givenFrom_cons_self,
          Option.map_some, Option.getD_some, String.toList_ofList]
      · rw [Part.replaced, if_neg same, List.flatMap_singleton, Part.filled, Part.filled,
          resolveFrom, givenFrom_cons_of_ne same]

/-- Each argument takes the place of the slots of its number. Of the slots that it brings in,
those of higher numbers are filled by the arguments behind it. -/
theorem fillFrom_written {parts : List Part} {arguments : List String}
    (settled : arguments ≠ [] → IsSettled parts) (clean : 2 ≤ arguments.length → IsClean parts)
    (cleanArguments : ∀ argument ∈ arguments.dropLast, IsClean (Template.parts argument.toList))
    (number : Nat) :
    fillFrom number (written parts) arguments =
      parts.flatMap (Part.filled (givenFrom number (resolveFrom number arguments))) := by
  induction arguments generalizing parts number with
  | nil => rw [fillFrom, resolveFrom, givenFrom_nil, flatMap_filled_none]
  | cons argument arguments induction =>
      have replaced : replaceAll (slot number) argument.toList (written parts) =
          written (parts.flatMap (Part.replaced number (Template.parts argument.toList))) := by
        rw [← replaceAll_written (settled (List.cons_ne_nil _ _)), written_parts]
      rw [fillFrom, replaced, ← flatMap_filled_replaced]
      cases arguments with
      | nil =>
          -- Nothing is filled behind the last argument, so it may have any braces.
          apply induction
          · exact fun more => absurd rfl more
          · exact fun two => absurd two (by decide)
          · exact List.forall_mem_nil _
      | cons next arguments =>
          rw [List.dropLast_cons_cons, List.forall_mem_cons] at cleanArguments
          have two : 2 ≤ (argument :: next :: arguments).length := by simp
          have cleanReplaced := (clean two).flatMap_replaced cleanArguments.1 number
          apply induction
          · exact fun _ => cleanReplaced.isSettled
          · exact fun _ => cleanReplaced
          · exact cleanArguments.2

/-! ## Filling all slots at once -/

/-- A template with every slot filled by the argument of its number, and nothing else
changed. -/
def fillAtOnce (template : String) (arguments : List String) : String :=
  String.ofList ((parts template.toList).flatMap (Part.filled (arguments[·]?)))

example : fillAtOnce "\x7b1\x7d\x7b0\x7d\x7b2\x7d" ["\x7b1\x7d", "b"] = "b\x7b1\x7d\x7b2\x7d" := by
  decide +kernel

theorem fill_eq {template : String} {arguments : List String}
    (clean : 2 ≤ arguments.length → IsClean (parts template.toList))
    (cleanArguments : ∀ argument ∈ arguments.dropLast, IsClean (parts argument.toList)) :
    fill template arguments = fillAtOnce template (resolveFrom 0 arguments) := by
  have given : givenFrom 0 (resolveFrom 0 arguments) = fun number =>
      (resolveFrom 0 arguments)[number]? := by
    funext number
    simp [givenFrom]
  have filled := fillFrom_written (fun _ => isSettled_partsFrom 0 template.toList) clean
    cleanArguments 0
  rw [← parts, written_parts, given] at filled
  rw [fill, filled, fillAtOnce]

theorem parts_of_not_mem {text : List Char} (noBrace : '\x7b' ∉ text) :
    parts text = text.map Part.text := by
  rw [parts]
  induction text with
  | nil => rfl
  | cons character text induction =>
      rw [List.mem_cons, not_or] at noBrace
      have noSlot : slotAt? (character :: text) = none := by
        rw [Option.eq_none_iff_forall_ne_some]
        intro number found
        rw [slotAt?_eq_some_iff, slot_eq, List.cons_prefix_cons] at found
        exact noBrace.1 found.1
      rw [partsFrom, noSlot, List.map_cons, ← induction noBrace.2]

theorem flatMap_filled_text (given : Nat → Option String) (text : List Char) :
    (text.map Part.text).flatMap (Part.filled given) = text := by
  rw [List.flatMap_map]
  exact List.flatMap_singleton' text

theorem isClean_of_not_mem {text : List Char} (noBrace : '\x7b' ∉ text) :
    IsClean (parts text) := by
  rw [IsClean, parts_of_not_mem noBrace, List.mem_map]
  rintro ⟨character, member, same⟩
  cases same
  exact noBrace member

theorem resolveFrom_of_not_mem {arguments : List String}
    (noBrace : ∀ argument ∈ arguments.dropLast, '\x7b' ∉ argument.toList) (number : Nat) :
    resolveFrom number arguments = arguments := by
  induction arguments generalizing number with
  | nil => rfl
  | cons argument arguments induction =>
      cases arguments with
      | nil =>
          rw [resolveFrom, resolveFrom, givenFrom_nil, flatMap_filled_none, written_parts,
            String.ofList_toList]
      | cons next arguments =>
          rw [List.dropLast_cons_cons, List.forall_mem_cons] at noBrace
          rw [resolveFrom, induction noBrace.2, parts_of_not_mem noBrace.1, flatMap_filled_text,
            String.ofList_toList]

theorem fill_eq_fillAtOnce {template : String} {arguments : List String}
    (clean : 2 ≤ arguments.length → IsClean (parts template.toList))
    (noBrace : ∀ argument ∈ arguments.dropLast, '\x7b' ∉ argument.toList) :
    fill template arguments = fillAtOnce template arguments := by
  rw [fill_eq clean fun argument member => isClean_of_not_mem (noBrace argument member),
    resolveFrom_of_not_mem noBrace]

/-! ## Slots and text of a template -/

def slots (template : String) : List Nat :=
  (parts template.toList).filterMap Part.number?

def remainder (template : String) : List Char :=
  (parts template.toList).filterMap Part.character?

theorem mem_slots {template : String} {number : Nat} :
    number ∈ slots template ↔ .slot number ∈ parts template.toList := by
  rw [slots, List.mem_filterMap]
  constructor
  · rintro ⟨part, member, isSlot⟩
    cases part <;> cases isSlot
    exact member
  · exact fun member => ⟨_, member, rfl⟩

theorem mem_remainder {template : String} {character : Char} :
    character ∈ remainder template ↔ .text character ∈ parts template.toList := by
  rw [remainder, List.mem_filterMap]
  constructor
  · rintro ⟨part, member, isText⟩
    cases part <;> cases isText
    exact member
  · exact fun member => ⟨_, member, rfl⟩

theorem mem_fillAtOnce {template : String} {character : Char}
    (member : character ∈ remainder template) (arguments : List String) :
    character ∈ (fillAtOnce template arguments).toList := by
  rw [fillAtOnce, String.toList_ofList, List.mem_flatMap]
  exact ⟨.text character, mem_remainder.mp member, List.mem_singleton_self character⟩

/-! ## Filling in turn or at once -/

/-- A template whose braces all belong to slots is filled with its arguments resolved: in an
argument the slots of higher numbers are filled, while those of its own number and below
stay. So every slot gets its own argument if only the last one may hold braces. -/
theorem fill_slot_after_slot (template : String) (arguments : List String)
    (clean : 2 ≤ arguments.length → IsClean (parts template.toList))
    (cleanArguments : ∀ argument ∈ arguments.dropLast, IsClean (parts argument.toList)) :
    fill template arguments = fillAtOnce template (resolveFrom 0 arguments) ∧
      ((∀ argument ∈ arguments.dropLast, '\x7b' ∉ argument.toList) →
        fill template arguments = fillAtOnce template arguments) :=
  ⟨fill_eq clean cleanArguments, fill_eq_fillAtOnce clean⟩

theorem fill_slot_after_slot_name :
    let template := "Default value for \x7b0\x7d \x7b1\x7d can't be \x7b2\x7d"
    fill template ["int", "\x7b2\x7d", "string"] = fillAtOnce template ["int", "string", "string"] ∧
      fill template ["int", "x", "\x7b0\x7d"] = fillAtOnce template ["int", "x", "\x7b0\x7d"] := by
  intro template
  have resolved : resolveFrom 0 ["int", "\x7b2\x7d", "string"] = ["int", "string", "string"] := by
    decide +kernel
  constructor
  · rw [← resolved]
    exact (fill_slot_after_slot template _ (fun _ => by decide +kernel) (by decide +kernel)).1
  · exact (fill_slot_after_slot template _ (fun _ => by decide +kernel) (by decide +kernel)).2
      (by decide +kernel)

/-- A name that looks like a slot does not come out as it is. -/
theorem fill_ne_fillAtOnce :
    let template := "Default value for \x7b0\x7d \x7b1\x7d can't be \x7b2\x7d"
    let arguments := ["int", "\x7b2\x7d", "string"]
    fill template arguments = "Default value for int string can't be string" ∧
      fillAtOnce template arguments = "Default value for int \x7b2\x7d can't be string" := by
  decide +kernel

example :
    fill "\x7b\x7b0\x7d\x7d" ["1", "b"] = "b" ∧
      fillAtOnce "\x7b\x7b0\x7d\x7d" ["1", "b"] = "\x7b1\x7d" := by
  decide +kernel

end ParamTypes.Template
