import ParamTypes.Comment.Line
import ParamTypes.Proofs.Text

/-!
The delimiters of a comment, and the comment that other lines make up between them.

The body of a comment is found again between its delimiters if a run of blanks in it is
exchanged for another text, as long as that begins and ends with a blank: then neither
delimiter can reach into it (`Line.body_exchange`).
-/

namespace ParamTypes.Line

open Text

/-! ## Delimiters -/

def opening (comment : List Char) : List Char :=
  comment.takeWhile isBlank ++
    if (stripStart? ['/', '*', '*'] (trim comment)).isSome then ['/', '*', '*'] else []

def closing (comment : List Char) : List Char :=
  comment.drop (opening comment ++ body comment).length

/-- The comment with the given lines between its delimiters. -/
def withLines (comment : List Char) (lines : List (List Char)) : List Char :=
  opening comment ++ (['\n'].intercalate lines ++ closing comment)

example :
    withLines " /** @param int $a */".toList [" @param int".toList, " * $a ".toList] =
      " /** @param int\n * $a */".toList := by
  decide

theorem exists_start (comment : List Char) :
    ∃ start : List Char, (start = [] ∨ start = ['/', '*', '*']) ∧
      opening comment = comment.takeWhile isBlank ++ start ∧
      trim comment =
        start ++ (stripStart? ['/', '*', '*'] (trim comment)).getD (trim comment) := by
  cases stripped : stripStart? ['/', '*', '*'] (trim comment) with
  | none => exact ⟨[], .inl rfl, by rw [opening, stripped]; rfl, rfl⟩
  | some rest =>
      exact ⟨['/', '*', '*'], .inr rfl, by rw [opening, stripped]; rfl,
        stripStart?_eq_some_iff.mp stripped⟩

theorem exists_ending (comment : List Char) :
    ∃ ending : List Char, (ending = [] ∨ ending = ['*', '/']) ∧
      (stripStart? ['/', '*', '*'] (trim comment)).getD (trim comment) =
        body comment ++ ending := by
  rw [body]
  generalize (stripStart? ['/', '*', '*'] (trim comment)).getD (trim comment) = rest
  cases stripped : stripEnd? ['*', '/'] rest with
  | none => exact ⟨[], .inl rfl, (List.append_nil rest).symm⟩
  | some inner => exact ⟨['*', '/'], .inr rfl, stripEnd?_eq_some_iff.mp stripped⟩

/-- A comment is its body between two delimiters, of which either may be missing, and
two runs of blanks. -/
theorem exists_delimiters (comment : List Char) :
    ∃ before start ending after : List Char,
      (∀ blank ∈ before, isBlank blank = true) ∧ (∀ blank ∈ after, isBlank blank = true) ∧
      (start = [] ∨ start = ['/', '*', '*']) ∧ (ending = [] ∨ ending = ['*', '/']) ∧
      trim comment = start ++ (body comment ++ ending) ∧
      opening comment = before ++ start ∧ closing comment = ending ++ after ∧
      comment = before ++ (trim comment ++ after) := by
  rcases exists_trimStart comment with ⟨after, parts, areBlank⟩
  rcases exists_start comment with ⟨start, isStart, isOpening, trimmed⟩
  rcases exists_ending comment with ⟨ending, isEnding, inner⟩
  rw [inner] at trimmed
  have whole : comment.takeWhile isBlank ++ (trim comment ++ after) = comment := by
    rw [← parts]
    exact List.takeWhile_append_dropWhile
  have cut : (opening comment ++ body comment) ++ (ending ++ after) = comment := calc
    _ = comment.takeWhile isBlank ++ ((start ++ (body comment ++ ending)) ++ after) := by
      rw [isOpening]
      simp only [List.append_assoc]
    _ = comment := by rw [← trimmed, whole]
  have behind : ((opening comment ++ body comment) ++ (ending ++ after)).drop
      (opening comment ++ body comment).length = ending ++ after :=
    List.drop_left
  rw [cut] at behind
  exact ⟨_, start, ending, after, fun _ => List.mem_takeWhile_imp, areBlank, isStart, isEnding,
    trimmed, isOpening, behind, whole.symm⟩

theorem opening_body_closing (comment : List Char) :
    opening comment ++ (body comment ++ closing comment) = comment := by
  rcases exists_delimiters comment with
    ⟨before, start, ending, after, _, _, _, _, trimmed, isOpening, isClosing, whole⟩
  calc
    _ = before ++ ((start ++ (body comment ++ ending)) ++ after) := by
      rw [isOpening, isClosing]
      simp only [List.append_assoc]
    _ = comment := by rw [← trimmed, ← whole]

/-- The body of a comment cut at its line feeds. Each line of the body is a piece, with its
carriage return if it ends in one. -/
def bodyPieces (comment : List Char) : List (List Char) :=
  (body comment).splitOn '\n'

theorem withLines_bodyPieces (comment : List Char) :
    withLines comment (bodyPieces comment) = comment := by
  rw [withLines, bodyPieces, List.intercalate_splitOn, opening_body_closing]

/-! ## The body between other delimiters -/

/-- A text that a delimiter cannot reach into. -/
structure IsSeam (text : List Char) : Prop where
  nonempty : text ≠ []
  begins : ∀ first ∈ text.head?, isBlank first = true
  ends : ∀ last ∈ text.getLast?, isBlank last = true

theorem isSeam_of_blanks {blanks : List Char} (nonempty : blanks ≠ [])
    (areBlank : ∀ blank ∈ blanks, isBlank blank = true) : IsSeam blanks where
  nonempty := nonempty
  begins := fun first begins => areBlank first (List.mem_of_mem_head? begins)
  ends := fun last ends => areBlank last (List.mem_of_getLast? ends)

theorem body_of_seam {before first seam last after : List Char} (isSeam : IsSeam seam)
    (areBlank : ∀ blank ∈ before, isBlank blank = true)
    (othersAreBlank : ∀ blank ∈ after, isBlank blank = true)
    (firstNonempty : first ≠ []) (begins : ∀ head ∈ first.head?, isBlank head = false)
    (lastNonempty : last ≠ []) (ends : ∀ final ∈ last.getLast?, isBlank final = false) :
    body (before ++ ((first ++ (seam ++ last)) ++ after)) =
      (stripStart? ['/', '*', '*'] first).getD first ++
        (seam ++ (stripEnd? ['*', '/'] last).getD last) := by
  have trimmed : trim (before ++ ((first ++ (seam ++ last)) ++ after)) =
      first ++ (seam ++ last) := by
    rw [trim_blanks_append areBlank, trim_append_blanks othersAreBlank, trim_of_ends]
    · rwa [List.head?_append_of_ne_nil _ firstNonempty]
    · rwa [← List.append_assoc, List.getLast?_append_of_ne_nil _ lastNonempty]
  have noStart : ∀ head ∈ (seam ++ last).head?, head ∉ ['/', '*', '*'] := by
    rw [List.head?_append_of_ne_nil _ isSeam.nonempty]
    intro head begins member
    have visible : isBlank head = false := eq_false_of_mem (by decide) member
    rw [isSeam.begins head begins] at visible
    cases visible
  have noEnd (front : List Char) : ∀ final ∈ (front ++ seam).getLast?, final ∉ ['*', '/'] := by
    rw [List.getLast?_append_of_ne_nil _ isSeam.nonempty]
    intro final ends member
    have visible : isBlank final = false := eq_false_of_mem (by decide) member
    rw [isSeam.ends final ends] at visible
    cases visible
  rw [body, trimmed, stripStart?_append_of_head noStart]
  simp only [Option.getD_map (· ++ (seam ++ last)) first]
  rw [← List.append_assoc, stripEnd?_append_of_last (noEnd _), Option.getD_map, List.append_assoc]

theorem body_exchange {comment first seam last other : List Char} (isSeam : IsSeam seam)
    (isBody : body comment = first ++ (seam ++ last)) (otherIsSeam : IsSeam other)
    (firstNonempty : first ≠ []) (lastNonempty : last ≠ []) :
    body (opening comment ++ ((first ++ (other ++ last)) ++ closing comment)) =
      first ++ (other ++ last) := by
  rcases exists_delimiters comment with
    ⟨before, start, ending, after, areBlank, othersAreBlank, isStart, isEnding, trimmed,
      isOpening, isClosing, whole⟩
  have openedNonempty : start ++ first ≠ [] :=
    List.append_ne_nil_of_right_ne_nil _ firstNonempty
  have closedNonempty : last ++ ending ≠ [] :=
    List.append_ne_nil_of_left_ne_nil lastNonempty _
  have parts : trim comment = (start ++ first) ++ (seam ++ (last ++ ending)) := by
    rw [trimmed, isBody]
    simp only [List.append_assoc]
  have begins : ∀ head ∈ (start ++ first).head?, isBlank head = false := by
    intro head begins
    apply isBlank_of_mem_head?_trim
    rwa [parts, List.head?_append_of_ne_nil _ openedNonempty]
  have ends : ∀ final ∈ (last ++ ending).getLast?, isBlank final = false := by
    intro final ends
    apply isBlank_of_mem_getLast?_trim
    rwa [parts, ← List.append_assoc, List.getLast?_append_of_ne_nil _ closedNonempty]
  have cut {middle : List Char} (isSeam : IsSeam middle) :=
    body_of_seam isSeam areBlank othersAreBlank openedNonempty begins closedNonempty ends
  -- The seam tells what is left of the two ends; the body has room for no more.
  have old := cut isSeam
  rw [← parts, ← whole, isBody] at old
  have front := length_getD_stripStart?_le isStart first
  have back := length_getD_stripEnd?_le isEnding last
  have lengths := congrArg List.length old
  simp only [List.length_append] at lengths
  rcases List.append_inj old (by omega) with ⟨isFirst, rest⟩
  have isLast := List.append_cancel_left rest
  have new := cut otherIsSeam
  rw [← isFirst, ← isLast] at new
  have same : (before ++ start) ++ ((first ++ (other ++ last)) ++ (ending ++ after)) =
      before ++ (((start ++ first) ++ (other ++ (last ++ ending))) ++ after) := by
    simp only [List.append_assoc]
  rw [isOpening, isClosing, same, new]

end ParamTypes.Line
