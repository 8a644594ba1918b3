import Mathlib.Data.List.DropRight
import Mathlib.Data.List.TakeWhile
import ParamTypes.Text.Identifier
import ParamTypes.Text.Trim

/-!
Texts that are cut at their ends: which runs are dropped and which characters
stop them. Identifiers hold no blanks and no punctuation, so no run of either
reaches into one.
-/

namespace ParamTypes.Text

/-! ## Runs at the start -/

theorem dropWhile_of_head {drops : Char → Bool} {text : List Char}
    (stays : ∀ character ∈ text.head?, drops character = false) :
    text.dropWhile drops = text := by
  cases text with
  | nil => rfl
  | cons first rest =>
      have kept : drops first = false := stays first rfl
      rw [List.dropWhile_cons, kept]
      rfl

theorem takeWhile_append_of_head {takes : Char → Bool} {text rest : List Char}
    (taken : ∀ character ∈ text, takes character = true)
    (stops : ∀ character ∈ rest.head?, takes character = false) :
    (text ++ rest).takeWhile takes = text := by
  rw [List.takeWhile_append_of_pos taken]
  cases rest with
  | nil => simp
  | cons first rest =>
      have left : takes first = false := stops first rfl
      rw [List.takeWhile_cons, left]
      simp

theorem dropWhile_append_of_head {drops : Char → Bool} {text rest : List Char}
    (dropped : ∀ character ∈ text, drops character = true)
    (stays : ∀ character ∈ rest.head?, drops character = false) :
    (text ++ rest).dropWhile drops = rest := by
  rw [List.dropWhile_append_of_pos dropped, dropWhile_of_head stays]

theorem dropWhile_replicate_append (count : Nat) (character : Char) (rest : List Char) :
    (List.replicate count character ++ rest).dropWhile (· == character) =
      rest.dropWhile (· == character) := by
  apply List.dropWhile_append_of_pos
  intro other isOther
  simp [List.eq_of_mem_replicate isOther]

theorem getLast?_dropWhile {drops : Char → Bool} {text : List Char}
    (nonempty : text.dropWhile drops ≠ []) :
    (text.dropWhile drops).getLast? = text.getLast? := by
  have parts : text.takeWhile drops ++ text.dropWhile drops = text :=
    List.takeWhile_append_dropWhile
  rw [← parts, List.getLast?_append, parts, List.getLast?_eq_some_getLast nonempty]
  rfl

/-! ## Runs at the end -/

theorem dropEndWhile_of_last {drops : Char → Bool} {text : List Char}
    (stays : ∀ character ∈ text.getLast?, drops character = false) :
    dropEndWhile drops text = text := by
  rw [dropEndWhile, dropWhile_of_head, List.reverse_reverse]
  simpa using stays

theorem dropEndWhile_append_of_all {drops : Char → Bool} {ending : List Char}
    (dropped : ∀ character ∈ ending, drops character = true) (text : List Char) :
    dropEndWhile drops (text ++ ending) = dropEndWhile drops text := by
  rw [dropEndWhile, List.reverse_append, List.dropWhile_append_of_pos, dropEndWhile]
  intro character isLast
  exact dropped character (List.mem_reverse.mp isLast)

theorem dropEndWhile_append_of_last {drops : Char → Bool} {text : List Char}
    (stays : ∀ character ∈ text.getLast?, drops character = false) (ending : List Char) :
    dropEndWhile drops (text ++ ending) = text ++ dropEndWhile drops ending := by
  have stopped : text.reverse.dropWhile drops = text.reverse :=
    dropWhile_of_head (by simpa using stays)
  simp only [dropEndWhile, List.reverse_append, List.dropWhile_append, stopped]
  cases dropped : ending.reverse.dropWhile drops with
  | nil => simp
  | cons last others => simp

theorem dropEndWhile_append_of_ne_nil {drops : Char → Bool} {ending : List Char}
    (nonempty : dropEndWhile drops ending ≠ []) (text : List Char) :
    dropEndWhile drops (text ++ ending) = text ++ dropEndWhile drops ending := by
  have kept : ¬ (ending.reverse.dropWhile drops).isEmpty = true := by
    rw [List.isEmpty_iff]
    exact fun nothing => nonempty (congrArg List.reverse nothing)
  rw [dropEndWhile, List.reverse_append, List.dropWhile_append, if_neg kept,
    List.reverse_append, List.reverse_reverse, dropEndWhile]

theorem head?_dropEndWhile {drops : Char → Bool} {text : List Char} {first : Char}
    (begins : first ∈ (dropEndWhile drops text).head?) : first ∈ text.head? := by
  have parts : dropEndWhile drops text ++ (text.reverse.takeWhile drops).reverse = text := by
    rw [dropEndWhile, ← List.reverse_append, List.takeWhile_append_dropWhile,
      List.reverse_reverse]
  cases kept : dropEndWhile drops text with
  | nil =>
      rw [kept] at begins
      cases begins
  | cons head rest =>
      rw [kept] at begins parts
      rw [← parts]
      exact begins

/-! ## Given beginnings and endings -/

theorem stripStart?_eq_none_iff {beginning text : List Char} :
    stripStart? beginning text = none ↔ ¬ beginning <+: text := by
  rw [Option.eq_none_iff_forall_ne_some, List.IsPrefix, not_exists]
  exact forall_congr' fun rest => not_congr (stripStart?_eq_some_iff.trans eq_comm)

theorem stripEnd?_eq_none_iff {ending text : List Char} :
    stripEnd? ending text = none ↔ ¬ ending <:+ text := by
  rw [Option.eq_none_iff_forall_ne_some, List.IsSuffix, not_exists]
  exact forall_congr' fun start => not_congr (stripEnd?_eq_some_iff.trans eq_comm)

theorem getLast?_of_stripEnd? {ending text rest : List Char} (nonempty : ending ≠ [])
    (split : stripEnd? ending text = some rest) : text.getLast? = ending.getLast? := by
  rw [stripEnd?_eq_some_iff.mp split, List.getLast?_append_of_ne_nil _ nonempty]

theorem stripEnd?_eq_none_of_last {ending text : List Char} (nonempty : ending ≠ [])
    (different : text.getLast? ≠ ending.getLast?) : stripEnd? ending text = none := by
  rw [Option.eq_none_iff_forall_ne_some]
  exact fun rest split => different (getLast?_of_stripEnd? nonempty split)

theorem stripStart?_append_of_head {beginning rest : List Char}
    (stops : ∀ character ∈ rest.head?, character ∉ beginning) (text : List Char) :
    stripStart? beginning (text ++ rest) = (stripStart? beginning text).map (· ++ rest) := by
  induction beginning generalizing text with
  | nil => rfl
  | cons expected beginning induction =>
      cases text with
      | nil =>
          cases rest with
          | nil => rfl
          | cons first rest =>
              have different : first ≠ expected := List.ne_of_not_mem_cons (stops first rfl)
              exact if_neg different
      | cons character text =>
          have later := induction (fun first begins =>
            List.not_mem_of_not_mem_cons (stops first begins)) text
          rw [List.cons_append, stripStart?, stripStart?, later]
          split
          · rfl
          · rfl

theorem stripEnd?_append_of_last {ending before : List Char}
    (stops : ∀ character ∈ before.getLast?, character ∉ ending) (text : List Char) :
    stripEnd? ending (before ++ text) = (stripEnd? ending text).map (before ++ ·) := by
  have reversed : ∀ character ∈ before.reverse.head?, character ∉ ending.reverse := by
    simpa using stops
  rw [stripEnd?, List.reverse_append, stripStart?_append_of_head reversed, stripEnd?,
    Option.map_map, Option.map_map]
  congr 1
  funext rest
  simp

theorem length_getD_stripStart?_le {beginning before : List Char}
    (isStart : before = [] ∨ before = beginning) (text : List Char) :
    ((stripStart? beginning (before ++ text)).getD (before ++ text)).length ≤ text.length := by
  rcases isStart with rfl | rfl
  · rw [List.nil_append]
    cases stripped : stripStart? beginning text with
    | none => exact le_rfl
    | some rest =>
        rw [stripStart?_eq_some_iff.mp stripped, List.length_append]
        exact Nat.le_add_left _ _
  · rw [stripStart?_eq_some_iff.mpr rfl]
    exact le_rfl

theorem length_getD_stripEnd?_le {ending after : List Char}
    (isEnd : after = [] ∨ after = ending) (text : List Char) :
    ((stripEnd? ending (text ++ after)).getD (text ++ after)).length ≤ text.length := by
  rcases isEnd with rfl | rfl
  · rw [List.append_nil]
    cases stripped : stripEnd? ending text with
    | none => exact le_rfl
    | some rest =>
        rw [stripEnd?_eq_some_iff.mp stripped, List.length_append]
        exact Nat.le_add_right _ _
  · rw [stripEnd?_eq_some_iff.mpr rfl]
    exact le_rfl

/-! ## Blanks around a text -/

theorem trimStart_append {blanks : List Char} (all : ∀ blank ∈ blanks, isBlank blank = true)
    (text : List Char) : trimStart (blanks ++ text) = trimStart text :=
  List.dropWhile_append_of_pos all

theorem trimStart_of_head {text : List Char}
    (stays : ∀ character ∈ text.head?, isBlank character = false) : trimStart text = text :=
  dropWhile_of_head stays

theorem trimEnd_append {blanks : List Char} (all : ∀ blank ∈ blanks, isBlank blank = true)
    (text : List Char) : trimEnd (text ++ blanks) = trimEnd text :=
  dropEndWhile_append_of_all all text

theorem exists_trimEnd (text : List Char) :
    ∃ after : List Char, text = trimEnd text ++ after ∧
      ∀ blank ∈ after, isBlank blank = true := by
  refine ⟨(text.reverse.takeWhile isBlank).reverse, ?_, ?_⟩
  · rw [trimEnd, dropEndWhile, ← List.reverse_append, List.takeWhile_append_dropWhile,
      List.reverse_reverse]
  · intro blank member
    exact List.mem_takeWhile_imp (List.mem_reverse.mp member)

theorem exists_blanks (text : List Char) :
    ∃ before : List Char, text = before ++ trimStart text ∧
      ∀ blank ∈ before, isBlank blank = true := by
  refine ⟨text.takeWhile isBlank, List.takeWhile_append_dropWhile.symm, ?_⟩
  intro blank member
  exact List.mem_takeWhile_imp member

theorem exists_trimStart (text : List Char) :
    ∃ after : List Char, trimStart text = trim text ++ after ∧
      ∀ blank ∈ after, isBlank blank = true :=
  exists_trimEnd (trimStart text)

theorem exists_trim (text : List Char) :
    ∃ before after : List Char, text = before ++ trim text ++ after ∧
      (∀ blank ∈ before, isBlank blank = true) ∧
      ∀ blank ∈ after, isBlank blank = true := by
  rcases exists_blanks text with ⟨before, started, blanksBefore⟩
  rcases exists_trimStart text with ⟨after, ended, blanks⟩
  refine ⟨before, after, ?_, blanksBefore, blanks⟩
  rw [List.append_assoc, ← ended]
  exact started

theorem trim_of_ends {text : List Char}
    (first : ∀ character ∈ text.head?, isBlank character = false)
    (last : ∀ character ∈ text.getLast?, isBlank character = false) :
    trim text = text := by
  rw [trim, trimStart_of_head first]
  exact dropEndWhile_of_last last

/-- Two characters that are not blank hold the text between them together. -/
theorem trim_append_of_ends {before text : List Char}
    (blankBefore : ∀ blank ∈ before, isBlank blank = true) (nonempty : text ≠ [])
    (first : ∀ character ∈ text.head?, isBlank character = false)
    (last : ∀ character ∈ text.getLast?, isBlank character = false) (after : List Char) :
    trim (before ++ (text ++ after)) = text ++ trimEnd after := by
  rw [trim, trimStart_append blankBefore, trimStart_of_head]
  · exact dropEndWhile_append_of_last last after
  · rw [List.head?_append_of_ne_nil _ nonempty]
    exact first

theorem trimEnd_trimEnd (text : List Char) : trimEnd (trimEnd text) = trimEnd text := by
  rw [trimEnd, trimEnd, dropEndWhile, dropEndWhile, List.reverse_reverse,
    List.dropWhile_idempotent]

theorem isBlank_of_mem_head?_trimStart {text : List Char} {character : Char}
    (first : character ∈ (trimStart text).head?) : isBlank character = false := by
  have stops := List.head?_dropWhile_not isBlank text
  rw [trimStart] at first
  rw [first] at stops
  simpa using stops

theorem isBlank_of_mem_head?_trim {text : List Char} {character : Char}
    (first : character ∈ (trim text).head?) : isBlank character = false :=
  isBlank_of_mem_head?_trimStart (head?_dropEndWhile first)

theorem isBlank_of_mem_getLast?_trim {text : List Char} {character : Char}
    (last : character ∈ (trim text).getLast?) : isBlank character = false := by
  rw [trim, trimEnd, dropEndWhile, List.getLast?_reverse] at last
  exact isBlank_of_mem_head?_trimStart last

theorem getLast?_trimStart {text : List Char}
    (stays : ∀ character ∈ text.getLast?, isBlank character = false) :
    (trimStart text).getLast? = text.getLast? := by
  by_cases nonempty : trimStart text = []
  · -- A text of blanks only would end in one.
    cases ending : text.getLast? with
    | none => rw [nonempty, List.getLast?_nil]
    | some last =>
        have blank := List.dropWhile_eq_nil_iff.mp nonempty last
          (List.mem_of_getLast? ending)
        rw [stays last ending] at blank
        cases blank
  · exact getLast?_dropWhile nonempty

theorem getLast?_trim {text : List Char}
    (stays : ∀ character ∈ text.getLast?, isBlank character = false) :
    (trim text).getLast? = text.getLast? := by
  have started := getLast?_trimStart stays
  rw [trim, trimEnd, dropEndWhile_of_last (started ▸ stays), started]

@[simp] theorem trim_trim (text : List Char) : trim (trim text) = trim text :=
  trim_of_ends (fun _ => isBlank_of_mem_head?_trim) (fun _ => isBlank_of_mem_getLast?_trim)

theorem trim_trimStart (text : List Char) : trim (trimStart text) = trim text := by
  rw [trim, trimStart, trimStart, List.dropWhile_idempotent]
  rfl

theorem trim_blanks_append {blanks : List Char}
    (areBlank : ∀ blank ∈ blanks, isBlank blank = true) (text : List Char) :
    trim (blanks ++ text) = trim text := by
  rw [trim, trimStart_append areBlank, ← trim]

theorem trim_append_blanks {blanks : List Char}
    (areBlank : ∀ blank ∈ blanks, isBlank blank = true) (text : List Char) :
    trim (text ++ blanks) = trim text := by
  rcases exists_trim text with ⟨before, after, parts, blankBefore, blankAfter⟩
  have behind : ∀ blank ∈ after ++ blanks, isBlank blank = true :=
    List.forall_mem_append.mpr ⟨blankAfter, areBlank⟩
  by_cases nothing : trim text = []
  · have allBlank : ∀ blank ∈ text ++ blanks, isBlank blank = true := by
      rw [parts, nothing, List.append_nil, List.append_assoc]
      exact List.forall_mem_append.mpr ⟨blankBefore, behind⟩
    rw [nothing, trim, trimStart, List.dropWhile_eq_nil_iff.mpr allBlank]
    rfl
  · have ended : trimEnd (after ++ blanks) = [] := by
      rw [← List.nil_append (after ++ blanks), trimEnd_append behind]
      rfl
    have whole : text ++ blanks = before ++ (trim text ++ (after ++ blanks)) := by
      conv_lhs => rw [parts]
      simp only [List.append_assoc]
    rw [whole, trim_append_of_ends blankBefore nothing (fun _ => isBlank_of_mem_head?_trim)
      (fun _ => isBlank_of_mem_getLast?_trim), ended, List.append_nil]

theorem trim_trimEnd (text : List Char) : trim (trimEnd text) = trim text := by
  rcases exists_trimEnd text with ⟨after, parts, areBlank⟩
  conv_rhs => rw [parts, trim_append_blanks areBlank]

/-! ## Words -/

theorem words_append {rest : List Char}
    (blankFirst : ∀ first ∈ rest.head?, isBlank first = true) (text : List Char) :
    firstWord (text ++ rest) = firstWord text ∧
      afterFirstWord (text ++ rest) = afterFirstWord text ++ rest := by
  rw [firstWord, firstWord, afterFirstWord, afterFirstWord]
  induction text with
  | nil =>
      have stops : ∀ first ∈ rest.head?, (!isBlank first) = false := fun first begins =>
        congrArg (!·) (blankFirst first begins)
      exact ⟨takeWhile_append_of_head (List.forall_mem_nil _) stops, dropWhile_of_head stops⟩
  | cons character text induction =>
      rw [List.cons_append, List.takeWhile_cons, List.takeWhile_cons, List.dropWhile_cons,
        List.dropWhile_cons, induction.1, induction.2]
      split
      · exact ⟨rfl, rfl⟩
      · exact ⟨rfl, rfl⟩

/-! ## Joined texts -/

theorem intercalate_append (separator : List Char) {first second : List (List Char)}
    (firstNonempty : first ≠ []) (secondNonempty : second ≠ []) :
    separator.intercalate (first ++ second) =
      separator.intercalate first ++ separator ++ separator.intercalate second := by
  induction first with
  | nil => contradiction
  | cons piece pieces induction =>
      cases pieces with
      | nil =>
          rw [List.singleton_append, List.intercalate_cons_of_ne_nil secondNonempty,
            List.intercalate_singleton]
      | cons next others =>
          have later := induction (List.cons_ne_nil _ _)
          rw [List.cons_append, List.cons_append, List.intercalate_cons_cons,
            ← List.cons_append, later, List.intercalate_cons_cons]
          simp only [List.append_assoc]

theorem intercalate_append_cons (separator text piece : List Char) (pieces : List (List Char)) :
    separator.intercalate ((text ++ piece) :: pieces) =
      text ++ separator.intercalate (piece :: pieces) := by
  cases pieces with
  | nil => rw [List.intercalate_singleton, List.intercalate_singleton]
  | cons next others =>
      rw [List.intercalate_cons_cons, List.intercalate_cons_cons]
      simp only [List.append_assoc]

theorem not_mem_of_mem_splitOn {separator : Char} {text piece : List Char}
    (member : piece ∈ text.splitOn separator) : separator ∉ piece := by
  induction text generalizing piece with
  | nil =>
      rw [List.splitOn_nil, List.mem_singleton] at member
      rw [member]
      exact List.not_mem_nil
  | cons character text induction =>
      rw [List.splitOn_cons_eq_if_modifyHead] at member
      rcases List.exists_cons_of_ne_nil (List.splitOn_ne_nil separator text) with
        ⟨first, others, parts⟩
      rw [parts] at member induction
      split at member
      · rcases List.mem_cons.mp member with rfl | later
        · exact List.not_mem_nil
        · exact induction later
      · rename_i different
        rw [List.modifyHead_cons] at member
        rcases List.mem_cons.mp member with rfl | later
        · intro inPiece
          rcases List.mem_cons.mp inPiece with same | inFirst
          · exact different (beq_iff_eq.mpr same.symm)
          · exact induction List.mem_cons_self inFirst
        · exact induction (List.mem_cons_of_mem _ later)

/-! ## Characters of identifiers -/

theorem eq_false_of_mem {holds : Char → Bool} {characters : List Char}
    (none : (characters.all fun character => !holds character) = true) {character : Char}
    (member : character ∈ characters) : holds character = false := by
  simpa using List.all_eq_true.mp none character member

def CodeRange.apart (first second : CodeRange) : Bool :=
  first.last < second.first || second.last < first.first

theorem CodeRange.not_contains_of_apart {first second : CodeRange}
    (apart : first.apart second = true) {character : Char}
    (inFirst : first.contains character = true) : second.contains character = false := by
  simp only [CodeRange.apart, Bool.or_eq_true, decide_eq_true_eq] at apart
  simp only [CodeRange.contains, Bool.and_eq_true, decide_eq_true_eq] at inFirst
  simp only [CodeRange.contains, Bool.and_eq_false_iff, decide_eq_false_iff_not]
  omega

theorem apart_of_blankRanges :
    (blankRanges.all fun blank =>
      (letterRanges ++ numeralRanges).all fun range => range.apart blank) = true := by
  decide +kernel

theorem isBlank_of_isIdentifierPart {character : Char}
    (part : isIdentifierPart character = true) : isBlank character = false := by
  have separated (range : CodeRange) (member : range ∈ letterRanges ++ numeralRanges)
      (inRange : range.contains character = true) : isBlank character = false := by
    apply List.any_eq_false.mpr
    intro blank isBlankRange
    have apart := List.all_eq_true.mp
      (List.all_eq_true.mp apart_of_blankRanges blank isBlankRange) range member
    simpa using CodeRange.not_contains_of_apart apart inRange
  simp only [isIdentifierPart, isIdentifierStart, Bool.or_eq_true, beq_iff_eq] at part
  rcases part with (rfl | letter) | numeral
  · decide
  · rcases List.any_eq_true.mp letter with ⟨range, member, inRange⟩
    exact separated range (List.mem_append_left _ member) inRange
  · rcases List.any_eq_true.mp numeral with ⟨range, member, inRange⟩
    exact separated range (List.mem_append_right _ member) inRange

def punctuation : List Char :=
  "&$.[]=\x60\x7b\x7d<>()|?\\*@\n".toList

theorem isIdentifierPart_of_mem_punctuation {character : Char}
    (member : character ∈ punctuation) : isIdentifierPart character = false :=
  eq_false_of_mem (by decide +kernel) member

theorem isIdentifierPart_of_isIdentifierStart {character : Char}
    (start : isIdentifierStart character = true) : isIdentifierPart character = true := by
  simp [isIdentifierPart, start]

theorem isIdentifierPart_of_mem {name : List Char} (identifier : isIdentifier name = true)
    {character : Char} (member : character ∈ name) : isIdentifierPart character = true := by
  cases name with
  | nil => cases member
  | cons first rest =>
      rw [isIdentifier, Bool.and_eq_true] at identifier
      rcases List.mem_cons.mp member with rfl | inRest
      · exact isIdentifierPart_of_isIdentifierStart identifier.1
      · exact List.all_eq_true.mp identifier.2 character inRest

theorem not_mem_of_isIdentifier {name : List Char} (identifier : isIdentifier name = true)
    {character : Char} (mark : character ∈ punctuation) : character ∉ name := by
  intro member
  have part := isIdentifierPart_of_mem identifier member
  rw [isIdentifierPart_of_mem_punctuation mark] at part
  cases part

theorem ne_nil_of_isIdentifier {name : List Char} (identifier : isIdentifier name = true) :
    name ≠ [] := by
  intro nothing
  rw [nothing] at identifier
  cases identifier

end ParamTypes.Text
