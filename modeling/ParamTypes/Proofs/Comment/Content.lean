import ParamTypes.Comment.Line
import ParamTypes.Proofs.Text

/-!
What is left of a line without its gutter and the blanks around it. A line is read by
its content alone, so neither of them changes how it is read.
-/

namespace ParamTypes.Line

open Text

/-! ## Blanks and gutters -/

theorem content_blanks_append {blanks : List Char}
    (areBlank : ∀ blank ∈ blanks, isBlank blank = true) (line : List Char) :
    content (blanks ++ line) = content line := by
  rw [content, trim_blanks_append areBlank, ← content]

theorem content_append_blanks {blanks : List Char}
    (areBlank : ∀ blank ∈ blanks, isBlank blank = true) (line : List Char) :
    content (line ++ blanks) = content line := by
  rw [content, trim_append_blanks areBlank, ← content]

theorem content_of_blank {line : List Char}
    (areBlank : ∀ blank ∈ line, isBlank blank = true) : content line = [] := by
  rw [← List.append_nil line, content_blanks_append areBlank]
  rfl

theorem content_of_no_star {line : List Char} (noStar : (trim line).head? ≠ some '*') :
    content line = trim line := by
  have stays : ∀ first ∈ (trim line).head?, (first == '*') = false := by
    intro first begins
    apply beq_false_of_ne
    rintro rfl
    exact noStar begins
  rw [content, dropWhile_of_head stays, trim_trim]

/-- Behind the stars of a gutter and a space, any text is content, stars included. -/
theorem content_behind_stars {indentation : List Char}
    (areBlank : ∀ blank ∈ indentation, isBlank blank = true) (moreStars : Nat)
    (text : List Char) :
    content (indentation ++ (List.replicate (moreStars + 1) '*' ++ ' ' :: text)) =
      trim text := by
  have space : ∀ blank ∈ [' '], isBlank blank = true := List.all_eq_true.mp rfl
  have started : trimStart (List.replicate (moreStars + 1) '*' ++ ' ' :: text) =
      List.replicate (moreStars + 1) '*' ++ ' ' :: text := by
    apply trimStart_of_head
    intro first begins
    cases begins
    decide
  have starEnds : ∀ last ∈ (List.replicate (moreStars + 1) '*').getLast?,
      isBlank last = false := by
    intro last ends
    rw [List.eq_of_mem_replicate (List.mem_of_getLast? ends)]
    decide
  have trimmed : trim (List.replicate (moreStars + 1) '*' ++ ' ' :: text) =
      List.replicate (moreStars + 1) '*' ++ trimEnd (' ' :: text) := by
    rw [trim, started]
    exact dropEndWhile_append_of_last starEnds _
  have noStar : ∀ first ∈ (trimEnd (' ' :: text)).head?, (first == '*') = false := by
    intro first begins
    cases head?_dropEndWhile begins
    rfl
  rw [content, trim_blanks_append areBlank, trimmed, dropWhile_replicate_append,
    dropWhile_of_head noStar, trim_trimEnd, ← List.singleton_append, trim_blanks_append space]

/-! ## Reading -/

theorem read_of_content_eq {first second : List Char} (same : content first = content second) :
    read first = read second := by
  rw [read, read, same]

theorem read_of_blank {line : List Char} (blank : ∀ character ∈ line, isBlank character = true) :
    read line = .text [] := by
  have nothing : content line = content [] := content_of_blank blank
  rw [read_of_content_eq nothing, read, content, skipQuoted]
  rfl

end ParamTypes.Line
