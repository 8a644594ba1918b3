import ParamTypes.Proofs.Comment.WrittenName
import ParamTypes.Proofs.TypeExpr.Cut
import ParamTypes.Proofs.TypeExpr.Spelling

/-!
Parameter tags as they are written: a type, bare or in braces, and a name with
its markers. Reading the text of such a tag gives back the name, the type and
the variadic marker, whatever is said behind the name.
-/

namespace ParamTypes.ParamTag

open Text TypeExpr

/-! ## Bare types -/

/-- Whether every blank of a text stands in brackets, inside `depth` of which
the text begins. -/
def BlanksEnclosed (depth : Nat) (text : List Char) : Prop :=
  ∀ before blank after, text = before ++ blank :: after → isBlank blank = true →
    depthAfter? depth before ≠ some 0

theorem blanksEnclosed_iff {depth : Nat} {text : List Char} :
    BlanksEnclosed depth text ↔ ∀ position : Fin text.length,
      isBlank text[position] = true → depthAfter? depth (text.take position) ≠ some 0 := by
  constructor
  · intro enclosed position isBlankHere
    apply enclosed _ _ (text.drop (position + 1)) _ isBlankHere
    rw [Fin.getElem_fin, ← List.drop_eq_getElem_cons, List.take_append_drop]
  · intro enclosed before blank after parts isBlankHere
    have inside : before.length < text.length := by simp [parts]
    have here := enclosed ⟨before.length, inside⟩
    simp only [parts, Fin.getElem_fin, List.getElem_append_right (Nat.le_refl _),
      Nat.sub_self, List.getElem_cons_zero, List.take_left] at here
    exact here isBlankHere

instance (depth : Nat) (text : List Char) : Decidable (BlanksEnclosed depth text) :=
  decidable_of_iff _ blanksEnclosed_iff.symm

theorem blanksEnclosed_of_word {text : List Char}
    (word : ∀ character ∈ text, isBlank character = false) (depth : Nat) :
    BlanksEnclosed depth text := by
  intro before blank after parts isBlankHere
  subst text
  rw [word blank (List.mem_append_right _ List.mem_cons_self)] at isBlankHere
  cases isBlankHere

theorem BlanksEnclosed.tail {depth inner : Nat} {character : Char} {rest : List Char}
    (enclosed : BlanksEnclosed depth (character :: rest))
    (step : depthStep? depth character = some inner) : BlanksEnclosed inner rest := by
  rintro before blank after rfl isBlankHere outside
  refine enclosed (character :: before) blank after rfl isBlankHere ?_
  rw [depthAfter?_cons, step, Option.bind_some, outside]

theorem BlanksEnclosed.append_word {depth : Nat} {text ending : List Char}
    (enclosed : BlanksEnclosed depth text)
    (word : ∀ character ∈ ending, isBlank character = false) :
    BlanksEnclosed depth (text ++ ending) := by
  intro before blank after parts isBlankHere
  have outside : blank ∉ ending := by
    intro member
    rw [word blank member] at isBlankHere
    cases isBlankHere
  rcases List.append_eq_append_iff.mp parts with
    ⟨middle, _, isEnding⟩ | ⟨middle, whole, isEnding⟩
  · rw [isEnding] at outside
    exact absurd (List.mem_append_right _ List.mem_cons_self) outside
  · cases middle with
    | nil =>
        rw [← List.nil_append ending, ← isEnding] at outside
        exact absurd List.mem_cons_self outside
    | cons first middle =>
        cases isEnding
        exact enclosed before blank middle whole isBlankHere

theorem bareType_cons {depth : Nat} {character : Char}
    (goesOn : ¬ (isBlank character = true ∧ depth = 0)) (rest : List Char) :
    bareType depth (character :: rest) =
      let cut := bareType (clampedStep opensBracket closesBracket depth character) rest
      (character :: cut.1, cut.2) := by
  have noEnd : (isBlank character && depth == 0) = false := by simpa using goesOn
  rw [bareType, noEnd]
  rfl

theorem bareType_append {depth final : Nat} {text : List Char}
    (closes : depthAfter? depth text = some final) (enclosed : BlanksEnclosed depth text)
    (rest : List Char) :
    bareType depth (text ++ rest) =
      (text ++ (bareType final rest).1, (bareType final rest).2) := by
  induction text generalizing depth with
  | nil =>
      cases closes
      rfl
  | cons character text induction =>
      have goesOn : ¬ (isBlank character = true ∧ depth = 0) := by
        rintro ⟨blank, rfl⟩
        exact enclosed [] character text rfl blank rfl
      rw [depthAfter?_cons] at closes
      rcases Option.bind_eq_some_iff.mp closes with ⟨inner, step, closes⟩
      rw [List.cons_append, bareType_cons goesOn, eq_of_depthStep? step,
        induction closes (enclosed.tail step)]
      rfl

theorem bareType_of_head {rest : List Char}
    (stops : ∀ character ∈ rest.head?, isBlank character = true) :
    bareType 0 rest = ([], rest) := by
  cases rest with
  | nil => rfl
  | cons first rest =>
      have blank : isBlank first = true := stops first rfl
      simp [bareType, blank]

theorem splitType?_of_head {text : List Char} (nonempty : text ≠ [])
    (bare : text.head? ≠ some '\x7b') : splitType? text = some (bareType 0 text) := by
  unfold splitType?
  split
  · contradiction
  · exact absurd rfl bare
  · rfl

theorem splitType?_of_bare {text behind : List Char} (balanced : IsBalanced text)
    (enclosed : BlanksEnclosed 0 text) (nonempty : text ≠ [])
    (noBrace : text.head? ≠ some '\x7b')
    (stops : ∀ character ∈ behind.head?, isBlank character = true) :
    splitType? (text ++ behind) = some (text, behind) := by
  have cut := bareType_append balanced enclosed behind
  rw [bareType_of_head stops, List.append_nil] at cut
  rw [splitType?_of_head (List.append_ne_nil_of_left_ne_nil nonempty behind), cut]
  rwa [List.head?_append_of_ne_nil _ nonempty]

theorem trim_of_blanksEnclosed {text : List Char} (balanced : IsBalanced text)
    (enclosed : BlanksEnclosed 0 text) : trim text = text := by
  apply trim_of_ends
  · intro first begins
    by_contra blank
    rw [Bool.not_eq_false] at blank
    rcases List.head?_eq_some_iff.mp begins with ⟨rest, parts⟩
    exact enclosed [] first rest parts blank rfl
  · intro last ends
    by_contra blank
    rw [Bool.not_eq_false] at blank
    rcases List.getLast?_eq_some_iff.mp ends with ⟨before, parts⟩
    have plain : ∀ character ∈ [last], isPlain character = true := by
      intro character member
      rw [List.mem_singleton.mp member]
      exact isPlain_of_isBlank blank
    have same : depthAfter? 0 text = depthAfter? 0 before := by
      rw [parts, depthAfter?_append]
      cases depthAfter? 0 before with
      | none => rfl
      | some depth => exact depthAfter?_of_plain plain depth
    exact enclosed before last [] parts blank (same ▸ balanced)

theorem MarkedName.splitType?_text (marked : MarkedName) {behind : List Char}
    (stops : ∀ character ∈ behind.head?, isBlank character = true) :
    splitType? (marked.text ++ behind) = some (marked.text, behind) := by
  have named := marked.isNameCharacter_of_mem_text
  apply splitType?_of_bare _ _ marked.text_ne_nil _ stops
  · exact depthAfter?_of_plain
      (fun character member => isPlain_of_isNameCharacter (named character member)) 0
  · exact blanksEnclosed_of_word
      (fun character member => isBlank_of_isNameCharacter (named character member)) 0
  · intro begins
    exact ne_of_isNameCharacter (named _ (List.mem_of_mem_head? begins))
      (by decide : '\x7b' ∈ delimiters) rfl

/-! ## Types in braces -/

theorem closeBrace?_append {text : List Char} (noOpening : '\x7b' ∉ text)
    (noClosing : '\x7d' ∉ text) (rest : List Char) :
    closeBrace? 0 (text ++ '\x7d' :: rest) = some (text, rest) := by
  induction text with
  | nil => rfl
  | cons character text induction =>
      rw [List.mem_cons, not_or] at noOpening noClosing
      have opens : (character == '\x7b') = false := beq_false_of_ne (Ne.symm noOpening.1)
      have closes : (character == '\x7d') = false := beq_false_of_ne (Ne.symm noClosing.1)
      simp [closeBrace?, opens, closes, induction noOpening.2 noClosing.2]

/-! ## Types that look like names -/

/-- What stands behind a text decides nothing, unless the text ends in a
beginning of a marker. -/
theorem isNameToken_append {text : List Char} {last : Char}
    (ends : last ∈ text.getLast?) (noAmpersand : last ≠ '&') (noDot : last ≠ '.')
    (rest : List Char) : isNameToken (text ++ rest) = isNameToken text := by
  have nonempty : text.dropWhile (· == '&') ≠ [] := by
    intro nothing
    have dropped := List.dropWhile_eq_nil_iff.mp nothing last (List.mem_of_getLast? ends)
    exact noAmpersand (beq_iff_eq.mp dropped)
  have unmarked : (text ++ rest).dropWhile (· == '&') =
      text.dropWhile (· == '&') ++ rest := by
    rw [List.dropWhile_append]
    simp [nonempty]
  have sameLast := getLast?_dropWhile nonempty
  rw [isNameToken, isNameToken, unmarked]
  generalize text.dropWhile (· == '&') = named at nonempty sameLast
  rw [← sameLast] at ends
  have dots : (stripStart? ['.', '.', '.'] (named ++ rest)).isSome =
      (stripStart? ['.', '.', '.'] named).isSome := by
    rw [Bool.eq_iff_iff, Option.isSome_iff_exists, Option.isSome_iff_exists]
    simp only [stripStart?_eq_some_iff]
    constructor
    · intro begins
      rcases begins with ⟨behind, parts⟩
      rcases List.append_eq_append_iff.mp parts with ⟨middle, isDots, _⟩ | ⟨middle, whole, _⟩
      · -- The text would end inside the dots.
        have isDot : last ∈ ['.', '.', '.'] := by
          rw [isDots]
          exact List.mem_append_left _ (List.mem_of_getLast? ends)
        exact absurd (by simpa using isDot) noDot
      · exact ⟨middle, whole⟩
    · intro begins
      rcases begins with ⟨behind, parts⟩
      exact ⟨behind ++ rest, by rw [parts, List.append_assoc]⟩
  rw [dots, List.head?_append_of_ne_nil _ nonempty]

/-! ## Spelled types -/

/-- A type expression on one line that can be read and that, blanks around it
and ampersands in front of it apart, does not begin like a marked name. -/
structure Spelling where
  text : List Char
  type : UnionType
  parses : UnionType.parse (String.ofList text) = .ok type
  oneLine : '\n' ∉ text
  isNoName : isNameToken (trim text) = false

namespace Spelling

theorem isBalanced (spelling : Spelling) : IsBalanced spelling.text := by
  rcases UnionType.parse_ofList_eq_ok_iff.mp spelling.parses with ⟨found, read, _⟩
  exact isBalanced_of_atoms read

theorem exists_last (spelling : Spelling) :
    ∃ last ∈ (trim spelling.text).getLast?, endsSpelling last = true := by
  rcases UnionType.parse_ofList_eq_ok_iff.mp spelling.parses with ⟨found, read, _⟩
  exact exists_last_of_atoms read

theorem trim_text_ne_nil (spelling : Spelling) : trim spelling.text ≠ [] := by
  rcases spelling.exists_last with ⟨last, isLast, _⟩
  intro nothing
  rw [nothing] at isLast
  cases isLast

theorem text_ne_nil (spelling : Spelling) : spelling.text ≠ [] := by
  intro nothing
  apply spelling.trim_text_ne_nil
  rw [nothing]
  rfl

/-- What is read of a spelling that dots may follow: they keep the blanks in
front of them. -/
def shown (spelling : Spelling) (dots : Bool) : List Char :=
  if dots then trimStart spelling.text else trim spelling.text

theorem shown_of_blanksEnclosed {spelling : Spelling}
    (enclosed : BlanksEnclosed 0 spelling.text) (dots : Bool) :
    spelling.shown dots = spelling.text := by
  have trimmed := trim_of_blanksEnclosed spelling.isBalanced enclosed
  cases dots with
  | false => exact trimmed
  | true =>
      apply trimStart_of_head
      rw [← trimmed]
      exact fun _ => isBlank_of_mem_head?_trim

theorem trim_append_dotsIf (spelling : Spelling) (dots : Bool) :
    trim (spelling.text ++ dotsIf dots) = spelling.shown dots ++ dotsIf dots := by
  cases dots with
  | false => simp [shown, dotsIf]
  | true =>
      have started : trimStart (spelling.text ++ dotsIf true) =
          trimStart spelling.text ++ dotsIf true := by
        have nonempty : trimStart spelling.text ≠ [] := by
          intro nothing
          apply spelling.trim_text_ne_nil
          rw [trim, nothing]
          rfl
        rw [trimStart] at nonempty ⊢
        rw [List.dropWhile_append]
        simp [nonempty, trimStart]
      rw [trim, started, trimEnd, dropEndWhile_of_last]
      · rfl
      · intro last ends
        rw [List.getLast?_append] at ends
        cases ends
        decide

theorem parse_shown (spelling : Spelling) (dots : Bool) :
    UnionType.parse (String.ofList (spelling.shown dots)) = .ok spelling.type := by
  apply UnionType.parse_of_trim_eq _ spelling.parses
  cases dots with
  | false => exact (trim_trim spelling.text).symm
  | true => exact (trim_trimStart spelling.text).symm

theorem isNameToken_shown (spelling : Spelling) (dots : Bool) :
    isNameToken (spelling.shown dots ++ dotsIf dots) = false := by
  have parts : ∃ ending, spelling.shown dots = trim spelling.text ++ ending := by
    cases dots with
    | false => exact ⟨[], (List.append_nil _).symm⟩
    | true =>
        rcases exists_trimStart spelling.text with ⟨after, parts, _⟩
        exact ⟨after, parts⟩
  rcases parts with ⟨ending, parts⟩
  rcases spelling.exists_last with ⟨last, isLast, closes⟩
  have apart (marker : Char) (member : marker ∈ ['&', '.']) : last ≠ marker := by
    intro same
    rw [same, endsSpelling_of_mem_markers member] at closes
    cases closes
  rw [parts, List.append_assoc,
    isNameToken_append isLast (apart '&' (by decide)) (apart '.' (by decide))]
  exact spelling.isNoName

theorem readDots_shown (spelling : Spelling) (dots : Bool) :
    readDots (spelling.shown dots ++ dotsIf dots) = (spelling.shown dots, dots) := by
  cases dots with
  | true =>
      have ends : stripEnd? ['.', '.', '.'] (spelling.shown true ++ dotsIf true) =
          some (spelling.shown true) :=
        stripEnd?_eq_some_iff.mpr rfl
      rw [readDots, ends]
  | false =>
      rcases spelling.exists_last with ⟨last, isLast, closes⟩
      have noDots : stripEnd? ['.', '.', '.'] (trim spelling.text) = none := by
        rw [Option.eq_none_iff_forall_ne_some]
        intro marked ends
        rw [stripEnd?_eq_some_iff] at ends
        rw [ends, List.getLast?_append] at isLast
        cases isLast
        rw [endsSpelling_of_mem_markers (by decide)] at closes
        cases closes
      simp [readDots, shown, dotsIf, noDots]

end Spelling

/-- How a type expression is set off from the name: bare, if its blanks stand
in brackets, or in braces, if it holds none itself. -/
inductive Delimiting (text : List Char)
  | bare (noBrace : text.head? ≠ some '\x7b') (enclosed : BlanksEnclosed 0 text)
  | braced (noOpening : '\x7b' ∉ text) (noClosing : '\x7d' ∉ text)

namespace Delimiting

def write {text : List Char} : Delimiting text → (marked : List Char) → List Char
  | .bare _ _, marked => marked
  | .braced _ _, marked => '\x7b' :: (marked ++ ['\x7d'])

theorem isBlank_of_mem_head?_write (spelling : Spelling)
    (delimiting : Delimiting spelling.text) (dots : Bool) :
    ∀ first ∈ (delimiting.write (spelling.text ++ dotsIf dots)).head?,
      isBlank first = false := by
  intro first begins
  cases delimiting with
  | bare noBrace enclosed =>
      have trimmed := trim_of_blanksEnclosed spelling.isBalanced enclosed
      rw [write, List.head?_append_of_ne_nil _ spelling.text_ne_nil, ← trimmed] at begins
      exact isBlank_of_mem_head?_trim begins
  | braced noOpening noClosing =>
      cases begins
      decide

theorem splitType?_write (spelling : Spelling) (delimiting : Delimiting spelling.text)
    (dots : Bool) {behind : List Char}
    (stops : ∀ character ∈ behind.head?, isBlank character = true) :
    splitType? (delimiting.write (spelling.text ++ dotsIf dots) ++ behind) =
      some (spelling.shown dots ++ dotsIf dots, behind) := by
  have plain : ∀ character ∈ dotsIf dots, isPlain character = true := by
    intro character member
    rw [mem_dotsIf member]
    decide
  have word : ∀ character ∈ dotsIf dots, isBlank character = false := by
    intro character member
    rw [mem_dotsIf member]
    decide
  cases delimiting with
  | bare noBrace enclosed =>
      have nonempty := spelling.text_ne_nil
      have balanced : IsBalanced (spelling.text ++ dotsIf dots) := by
        rw [IsBalanced, depthAfter?_append, spelling.isBalanced]
        exact depthAfter?_of_plain plain 0
      rw [write, Spelling.shown_of_blanksEnclosed enclosed]
      apply splitType?_of_bare balanced (enclosed.append_word word) (by simp [nonempty]) _ stops
      rwa [List.head?_append_of_ne_nil _ nonempty]
  | braced noOpening noClosing =>
      have noDotBrace (brace : Char) (noDot : brace ≠ '.') (outside : brace ∉ spelling.text) :
          brace ∉ spelling.text ++ dotsIf dots := by
        intro member
        rcases List.mem_append.mp member with inText | isDot
        · exact outside inText
        · exact noDot (mem_dotsIf isDot)
      have closed := closeBrace?_append (noDotBrace '\x7b' (by decide) noOpening)
        (noDotBrace '\x7d' (by decide) noClosing) behind
      rw [write, List.cons_append, List.append_assoc, List.singleton_append, splitType?,
        closed, ← spelling.trim_append_dotsIf]
      rfl

end Delimiting

/-! ## Entries -/

structure Gap where
  blanks : List Char
  nonempty : blanks ≠ []
  areBlank : ∀ blank ∈ blanks, isBlank blank = true
  oneLine : '\n' ∉ blanks

/-- What a parameter tag says: a name that dots or a dollar sign mark, or a
type, which dots may follow, and a name. -/
inductive Entry
  | untyped (marked : MarkedName) (isMarked : marked.isVariadic = true ∨ 0 < marked.dollars)
  | typed (spelling : Spelling) (delimiting : Delimiting spelling.text) (dots : Bool)
      (gap : Gap) (wrapping : Wrapping) (marked : MarkedName)

namespace Entry

def text : Entry → List Char
  | .untyped marked _ => marked.text
  | .typed spelling delimiting dots gap wrapping marked =>
      delimiting.write (spelling.text ++ dotsIf dots) ++
        (gap.blanks ++ wrapping.wrap marked.text)

example :
    text (.typed ⟨"int|null".toList, .ofList [.keyword .int, .keyword .null], by cbv,
        by decide, by decide⟩ (.braced (by decide) (by decide)) true
      ⟨[' '], by decide, List.all_eq_true.mp rfl, by decide⟩ .optional
      ⟨"n".toList, by decide +kernel, 0, false, 0, 1⟩) = "\x7bint|null...\x7d [$n]".toList := by
  decide

def documented : Entry → DocParameter
  | .untyped marked _ => ⟨String.ofList marked.name, ∅, marked.isVariadic⟩
  | .typed spelling _ dots _ _ marked =>
      ⟨String.ofList marked.name, spelling.type, dots || marked.isVariadic⟩

theorem text_ne_nil (entry : Entry) : entry.text ≠ [] := by
  cases entry with
  | untyped marked isMarked => exact marked.text_ne_nil
  | typed spelling delimiting dots gap wrapping marked =>
      simp [text, gap.nonempty]

theorem isBlank_of_mem_head?_text (entry : Entry) :
    ∀ first ∈ entry.text.head?, isBlank first = false := by
  intro first begins
  cases entry with
  | untyped marked isMarked =>
      exact isBlank_of_isNameCharacter
        (marked.isNameCharacter_of_mem_text first (List.mem_of_mem_head? begins))
  | typed spelling delimiting dots gap wrapping marked =>
      apply Delimiting.isBlank_of_mem_head?_write spelling delimiting dots
      rwa [text, List.head?_append_of_ne_nil] at begins
      cases delimiting with
      | bare noBrace enclosed => simp [Delimiting.write, spelling.text_ne_nil]
      | braced noOpening noClosing => simp [Delimiting.write]

theorem isBlank_of_mem_getLast?_text (entry : Entry) :
    ∀ last ∈ entry.text.getLast?, isBlank last = false := by
  intro last ends
  cases entry with
  | untyped marked isMarked =>
      exact isBlank_of_isNameCharacter
        (marked.isNameCharacter_of_mem_text last (List.mem_of_getLast? ends))
  | typed spelling delimiting dots gap wrapping marked =>
      rw [text, ← List.append_assoc,
        List.getLast?_append_of_ne_nil _ (wrapping.wrap_ne_nil marked)] at ends
      exact wrapping.isBlank_of_mem_wrap marked last (List.mem_of_getLast? ends)

theorem not_mem_text (entry : Entry) : '\n' ∉ entry.text := by
  have outside {text : List Char} (word : ∀ character ∈ text, isBlank character = false) :
      '\n' ∉ text := by
    intro member
    have visible := word '\n' member
    revert visible
    decide
  cases entry with
  | untyped marked isMarked =>
      exact outside fun character member =>
        isBlank_of_isNameCharacter (marked.isNameCharacter_of_mem_text character member)
  | typed spelling delimiting dots gap wrapping marked =>
      have noDot : '\n' ∉ dotsIf dots := by
        intro member
        have impossible := mem_dotsIf member
        revert impossible
        decide
      have noName := outside (wrapping.isBlank_of_mem_wrap marked)
      cases delimiting with
      | bare noBrace enclosed =>
          simp [text, Delimiting.write, spelling.oneLine, gap.oneLine, noDot, noName]
      | braced noOpening noClosing =>
          simp [text, Delimiting.write, spelling.oneLine, gap.oneLine, noDot, noName]

theorem read_text (entry : Entry) {lead : List Char}
    (leads : ∀ blank ∈ lead, isBlank blank = true) {behind : List Char}
    (stops : ∀ character ∈ behind.head?, isBlank character = true) :
    read (lead ++ (entry.text ++ behind)) = entry.documented := by
  have kept := trim_append_of_ends leads entry.text_ne_nil entry.isBlank_of_mem_head?_text
    entry.isBlank_of_mem_getLast?_text behind
  have stillStops : ∀ character ∈ (trimEnd behind).head?, isBlank character = true :=
    fun character begins => stops character (head?_dropEndWhile begins)
  rw [read, kept]
  generalize trimEnd behind = behind at stillStops
  cases entry with
  | untyped marked isMarked =>
      have isName : readName marked.text = (marked.name, marked.isVariadic) := by
        have unwrapped := readName_wrap .plain marked
        rwa [Wrapping.wrap_plain] at unwrapped
      rw [text, marked.splitType?_text stillStops]
      simp [marked.isNameToken_text isMarked, describe, isName, marked.isName, documented]
  | typed spelling delimiting dots gap wrapping marked =>
      have begins : ∀ character ∈ (gap.blanks ++ (wrapping.wrap marked.text ++ behind)).head?,
          isBlank character = true := by
        intro character isFirst
        rw [List.head?_append_of_ne_nil _ gap.nonempty] at isFirst
        exact gap.areBlank character (List.mem_of_mem_head? isFirst)
      have split := Delimiting.splitType?_write spelling delimiting dots begins
      have word := wrapping.firstWord_wrap marked gap.areBlank stillStops
      rw [text, List.append_assoc, List.append_assoc, split]
      simp [spelling.isNameToken_shown, word, describe, readName_wrap, marked.isName,
        spelling.readDots_shown, spelling.parse_shown, documented, Bool.or_comm,
        Except.toOption]

end Entry

end ParamTypes.ParamTag
