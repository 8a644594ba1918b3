import ParamTypes.Proofs.Comment.Delimiters
import ParamTypes.Proofs.Comment.EmptyLines
import ParamTypes.Proofs.Comment.QuotedSections
import ParamTypes.Proofs.Comment.Segmentation
import ParamTypes.Proofs.Respacing.Blocks

/-!
Comments with a line broken in two.

The line is broken at a run of blanks, and what stood behind goes on in a line with a
gutter of its own. The text of the tag then differs in one run of blanks, so the comment
says the same (`Comment.parse_rewrapped`).
-/

namespace ParamTypes

open Text

namespace Line

/-! ## The content of longer lines -/

theorem trimStart_append_of_ne_nil {front : List Char} (visible : trimStart front ≠ [])
    (rest : List Char) : trimStart (front ++ rest) = trimStart front ++ rest := by
  rw [trimStart, List.dropWhile_append, if_neg]
  · rfl
  · rwa [List.isEmpty_iff]

theorem trim_append_of_last {front : List Char} {last : Char} (ends : last ∈ front.getLast?)
    (visible : isBlank last = false) (rest : List Char) :
    trim front ≠ [] ∧ trim (front ++ rest) = trim front ++ trimEnd rest := by
  have stays : ∀ character ∈ front.getLast?, isBlank character = false := by
    intro character isLast
    rw [Option.mem_unique isLast ends]
    exact visible
  have startEnds := getLast?_trimStart stays
  have nonempty : trimStart front ≠ [] := by
    intro nothing
    rw [nothing, Option.mem_def.mp ends] at startEnds
    cases startEnds
  rw [← startEnds] at stays
  have same : trim front = trimStart front := dropEndWhile_of_last stays
  refine ⟨same ▸ nonempty, ?_⟩
  rw [trim, trimStart_append_of_ne_nil nonempty, trimEnd, dropEndWhile_append_of_last stays, same]
  rfl

theorem content_append {front rest : List Char} {last : Char} (ends : last ∈ front.getLast?)
    (visible : isBlank last = false) (blankFirst : ∀ first ∈ rest.head?, isBlank first = true) :
    content front ≠ [] ∧ content (front ++ rest) = content front ++ trimEnd rest ∨
      content front = [] ∧ content (front ++ rest) = trim rest := by
  rcases trim_append_of_last ends visible rest with ⟨nonempty, trimmed⟩
  have trimEnds : (trim front).getLast? = some last := by
    rw [getLast?_trim, Option.mem_def.mp ends]
    intro character isLast
    rw [Option.mem_unique isLast ends]
    exact visible
  rw [content, content, trimmed, List.dropWhile_append]
  by_cases gutter : (trim front).dropWhile (· == '*') = []
  · right
    have noStar : (trimEnd rest).dropWhile (· == '*') = trimEnd rest := by
      apply dropWhile_of_head
      intro first begins
      exact beq_false_of_ne (Respaced.ne_of_isBlank (by decide)
        (blankFirst first (head?_dropEndWhile begins)))
    rw [gutter, List.isEmpty_nil, if_pos rfl, noStar, trim_trimEnd]
    exact ⟨rfl, rfl⟩
  · left
    have stays : last ∈ ((trim front).dropWhile (· == '*')).getLast? := by
      rw [getLast?_dropWhile gutter, trimEnds]
      rfl
    rw [if_neg (mt List.isEmpty_iff.mp gutter)]
    rcases trim_append_of_last stays visible (trimEnd rest) with ⟨isVisible, more⟩
    exact ⟨isVisible, by rw [more, trimEnd_trimEnd]⟩

/-! ## Breaks -/

/-- A run of blanks between two visible characters of a line. -/
structure Break where
  front : List Char
  blanks : List Char
  behind : List Char
  nonempty : blanks ≠ []
  areBlank : ∀ blank ∈ blanks, isBlank blank = true
  frontEnds : ∃ last ∈ front.getLast?, isBlank last = false
  behindBegins : ∃ first ∈ behind.head?, isBlank first = false

namespace Break

def line (place : Break) : List Char :=
  place.front ++ (place.blanks ++ place.behind)

def moved (place : Break) (indentation : List Char) : List Char :=
  indentation ++ '*' :: ' ' :: place.behind

theorem head?_blanks_append (place : Break) (rest : List Char) :
    ∀ first ∈ (place.blanks ++ rest).head?, isBlank first = true := by
  intro first begins
  rw [List.head?_append_of_ne_nil _ place.nonempty] at begins
  exact place.areBlank first (List.mem_of_mem_head? begins)

theorem trim_behind (place : Break) : trim place.behind = trimEnd place.behind := by
  rcases place.behindBegins with ⟨first, begins, visible⟩
  rw [trim, trimStart_of_head]
  intro character isFirst
  rw [Option.mem_unique isFirst begins]
  exact visible

theorem trimEnd_behind_ne_nil (place : Break) : trimEnd place.behind ≠ [] := by
  intro nothing
  rcases place.behindBegins with ⟨first, begins, visible⟩
  rcases exists_trimEnd place.behind with ⟨after, parts, areBlank⟩
  rw [nothing, List.nil_append] at parts
  rw [areBlank first (parts ▸ List.mem_of_mem_head? begins)] at visible
  cases visible

theorem content_moved (place : Break) {indentation : List Char}
    (areBlank : ∀ blank ∈ indentation, isBlank blank = true) :
    content (place.moved indentation) = trimEnd place.behind :=
  (content_behind_stars areBlank 0 place.behind).trans place.trim_behind

/-- The content of a line is that of its front, the blanks and what stands behind them;
behind a gutter it begins with the latter. -/
theorem content_line (place : Break) :
    content place.front ≠ [] ∧
        content place.line = content place.front ++ (place.blanks ++ trimEnd place.behind) ∨
      content place.front = [] ∧ content place.line = trimEnd place.behind := by
  rcases place.frontEnds with ⟨last, ends, visible⟩
  have behind : trimEnd (place.blanks ++ place.behind) = place.blanks ++ trimEnd place.behind :=
    dropEndWhile_append_of_ne_nil place.trimEnd_behind_ne_nil place.blanks
  have cut := content_append ends visible (place.head?_blanks_append place.behind)
  rwa [trim_blanks_append place.areBlank, place.trim_behind, behind] at cut

/-! ## The lines of a break -/

theorem isTag_line {place : Break} (isTag : IsTag place.front) :
    IsTag place.line ∧
      marked place.line = marked place.front ++ (place.blanks ++ trimEnd place.behind) := by
  rcases List.head?_eq_some_iff.mp isTag with ⟨rest, begins⟩
  rcases place.content_line with ⟨_, whole⟩ | ⟨gutter, _⟩
  · have longer := skipQuoted_append begins (place.blanks ++ trimEnd place.behind)
    rw [← whole] at longer
    rw [IsTag, marked, marked, longer, begins]
    exact ⟨rfl, rfl⟩
  · rw [gutter, skipQuoted] at begins
    cases begins

theorem not_isTag_moved {place : Break} {indentation : List Char}
    (areBlank : ∀ blank ∈ indentation, isBlank blank = true)
    (noTag : (skipQuoted place.behind).head? ≠ some '@') :
    ¬ IsTag (place.moved indentation) := by
  intro isTag
  rcases List.head?_eq_some_iff.mp isTag with ⟨rest, begins⟩
  rw [place.content_moved areBlank] at begins
  rcases exists_trimEnd place.behind with ⟨after, parts, _⟩
  have longer := skipQuoted_append begins after
  rw [← parts] at longer
  rw [longer] at noTag
  exact noTag rfl

/-- The two lines of a break make up the same blocks as the one line, as long as its tag
stays in front and no tag begins behind. -/
theorem respacedLines_read (place : Break) {indentation : List Char}
    (areBlank : ∀ blank ∈ indentation, isBlank blank = true)
    (keepsTag : IsTag place.line → IsTag place.front)
    (noTag : (skipQuoted place.behind).head? ≠ some '@') (after : List Line) :
    Comment.RespacedLines (read place.line :: after)
      (read place.front :: read (place.moved indentation) :: after) := by
  have space : ∀ blank ∈ [' '], isBlank blank = true := List.all_eq_true.mp rfl
  have moved : read (place.moved indentation) = .text (trimEnd place.behind) := by
    rw [read_of_not_isTag (not_isTag_moved areBlank noTag), place.content_moved areBlank]
  have later := Respaced.refl (trimEnd place.behind ++ Comment.Block.continuation after)
  have exchanged := Respaced.exchange place.nonempty place.areBlank (List.cons_ne_nil ' ' [])
    space later
  have blocks : List.Forall₂ Comment.Block.Respaced (Comment.Block.all after)
      (Comment.Block.all after) :=
    List.forall₂_same.mpr fun block _ => .refl block
  by_cases isTag : IsTag place.front
  · rcases isTag_line isTag with ⟨isTagLine, isMarked⟩
    have words := words_append (place.head?_blanks_append (trimEnd place.behind))
      (marked place.front)
    rw [read_of_isTag isTag, read_of_isTag isTagLine, isMarked, words.1, words.2, moved]
    refine ⟨.nil, .cons ⟨rfl, ?_⟩ blocks⟩
    rw [List.append_assoc, List.append_assoc]
    exact (Respaced.refl _).append exchanged
  · rw [read_of_not_isTag isTag, read_of_not_isTag (mt keepsTag isTag), moved]
    refine ⟨?_, blocks⟩
    rcases place.content_line with ⟨_, whole⟩ | ⟨gutter, whole⟩
    · rw [whole]
      simp only [Comment.Block.continuation, List.cons_append, List.append_assoc]
      exact .keep ' ' ((Respaced.refl _).append exchanged)
    · rw [whole, gutter]
      have spaces : ∀ blank ∈ [' ', ' '], isBlank blank = true := List.all_eq_true.mp rfl
      have spaced : Respaced ([' '] ++ (trimEnd place.behind ++ Comment.Block.continuation after))
          ([' ', ' '] ++ (trimEnd place.behind ++ Comment.Block.continuation after)) :=
        .exchange (List.cons_ne_nil _ _) space (List.cons_ne_nil _ _) spaces later
      exact spaced

end Break

/-! ## The lines of a comment -/

variable {place : Break} {indentation : List Char}

theorem intercalate_line (before after : List (List Char)) :
    ['\n'].intercalate (before ++ place.line :: after) =
      ['\n'].intercalate (before ++ [place.front]) ++
        (place.blanks ++ ['\n'].intercalate (place.behind :: after)) := by
  have line : ['\n'].intercalate (place.line :: after) =
      place.front ++ (place.blanks ++ ['\n'].intercalate (place.behind :: after)) := by
    rw [Break.line, intercalate_append_cons, intercalate_append_cons]
  by_cases alone : before = []
  · rw [alone, List.nil_append, List.nil_append, List.intercalate_singleton, line]
  · rw [intercalate_append _ alone (List.cons_ne_nil _ _),
      intercalate_append _ alone (List.cons_ne_nil _ _), List.intercalate_singleton, line]
    simp only [List.append_assoc]

theorem intercalate_moved (before after : List (List Char)) :
    ['\n'].intercalate (before ++ place.front :: place.moved indentation :: after) =
      ['\n'].intercalate (before ++ [place.front]) ++
        ('\n' :: (indentation ++ ['*', ' ']) ++ ['\n'].intercalate (place.behind :: after)) := by
  have front : before ++ place.front :: place.moved indentation :: after =
      (before ++ [place.front]) ++ (place.moved indentation :: after) := by
    simp
  have moved : place.moved indentation = (indentation ++ ['*', ' ']) ++ place.behind := by
    rw [Break.moved, List.append_assoc]
    rfl
  rw [front, intercalate_append _ (List.append_ne_nil_of_right_ne_nil _ (List.cons_ne_nil _ _))
    (List.cons_ne_nil _ _), moved, intercalate_append_cons, List.append_assoc]
  rfl

theorem isSeam_gutter (indentation : List Char) :
    IsSeam ('\n' :: (indentation ++ ['*', ' '])) where
  nonempty := List.cons_ne_nil _ _
  begins := by
    intro first begins
    cases begins
    decide
  ends := by
    intro last ends
    have parts : '\n' :: (indentation ++ ['*', ' ']) = ('\n' :: indentation ++ ['*']) ++ [' '] := by
      simp
    rw [parts, List.getLast?_concat] at ends
    cases ends
    decide

theorem bodyPieces_withLines_break {comment : List Char} {before after : List (List Char)}
    (isLine : bodyPieces comment = before ++ place.line :: after) (oneLine : '\n' ∉ indentation) :
    bodyPieces (withLines comment (before ++ place.front :: place.moved indentation :: after)) =
      before ++ place.front :: place.moved indentation :: after := by
  have oldLines : ∀ line ∈ before ++ place.line :: after, '\n' ∉ line := by
    intro line member
    rw [← isLine] at member
    exact not_mem_of_mem_splitOn member
  have newLines : ∀ line ∈ before ++ place.front :: place.moved indentation :: after,
      '\n' ∉ line := by
    rcases List.forall_mem_append.mp oldLines with ⟨beforeLines, others⟩
    rcases List.forall_mem_cons.mp others with ⟨inLine, afterLines⟩
    rw [Break.line, List.mem_append, List.mem_append, not_or, not_or] at inLine
    have inMoved : '\n' ∉ place.moved indentation := by
      simp [Break.moved, oneLine, inLine.2.2]
    exact List.forall_mem_append.mpr ⟨beforeLines, List.forall_mem_cons.mpr ⟨inLine.1,
      List.forall_mem_cons.mpr ⟨inMoved, afterLines⟩⟩⟩
  have isBody : body comment = ['\n'].intercalate (before ++ [place.front]) ++
      (place.blanks ++ ['\n'].intercalate (place.behind :: after)) := by
    rw [← intercalate_line, ← isLine, bodyPieces, List.intercalate_splitOn]
  have frontNonempty : ['\n'].intercalate (before ++ [place.front]) ≠ [] := by
    rcases place.frontEnds with ⟨last, ends, _⟩
    have joinedEnds := TypeExpr.getLast?_intercalate ['\n'] (List.getLast?_concat (l := before))
      (List.ne_nil_of_mem (List.mem_of_getLast? ends))
    intro nothing
    rw [nothing, Option.mem_def.mp ends] at joinedEnds
    cases joinedEnds
  have behindNonempty : ['\n'].intercalate (place.behind :: after) ≠ [] := by
    rcases place.behindBegins with ⟨first, begins, _⟩
    rcases TypeExpr.exists_intercalate_cons ['\n'] place.behind after with ⟨rest, parts⟩
    rw [parts]
    exact List.append_ne_nil_of_left_ne_nil (List.ne_nil_of_mem (List.mem_of_mem_head? begins)) _
  have exchanged := body_exchange (isSeam_of_blanks place.nonempty place.areBlank) isBody
    (isSeam_gutter indentation) frontNonempty behindNonempty
  rw [bodyPieces, withLines, intercalate_moved, exchanged, ← intercalate_moved,
    List.splitOn_intercalate '\n' newLines]
  exact List.append_ne_nil_of_right_ne_nil _ (List.cons_ne_nil _ _)

end Line

namespace Comment

/-- A tag goes on behind a line break: what follows a run of blanks of a line can as well
stand in the next line behind a gutter, unless the tag of the line or another one would
begin there. -/
theorem parse_rewrapped (source : String) (before after : List (List Char))
    (place : Line.Break) (indentation : List Char)
    (isLine : Line.bodyPieces source.toList = before ++ place.line :: after)
    (areBlank : ∀ blank ∈ indentation, isBlank blank = true) (oneLine : '\n' ∉ indentation)
    (keepsTag : Line.IsTag place.line → Line.IsTag place.front)
    (noTag : (Line.skipQuoted place.behind).head? ≠ some '@') :
    Line.withLines source.toList (before ++ place.line :: after) = source.toList ∧
      parse (String.ofList (Line.withLines source.toList
        (before ++ place.front :: place.moved indentation :: after))) = parse source := by
  refine ⟨by rw [← isLine, Line.withLines_bodyPieces], ?_⟩
  have pieces : Line.readPieces (Line.body source.toList) =
      (before ++ place.line :: after).map Line.read := by
    rw [← isLine]
    rfl
  have broken : Line.readPieces (Line.body (Line.withLines source.toList
      (before ++ place.front :: place.moved indentation :: after))) =
        (before ++ place.front :: place.moved indentation :: after).map Line.read := by
    rw [Line.readPieces, ← Line.bodyPieces, Line.bodyPieces_withLines_break isLine oneLine]
  rw [parse_eq_ofLines_readPieces, parse_eq_ofLines_readPieces, String.toList_ofList, broken,
    pieces]
  simp only [List.map_append, List.map_cons]
  exact ((place.respacedLines_read areBlank keepsTag noTag _).append_left _).ofLines_eq.symm

theorem parse_rewrapped_generic :
    parse "/** @param array<int,\n\t * A> $x many */" =
        parse "/** @param array<int,  A> $x many */" ∧
      (parse "/** @param array<int,  A> $x many */").parameters =
        [⟨"x", .ofKeyword .array, false⟩] := by
  let place : Line.Break :=
    { front := " @param array<int,".toList
      blanks := "  ".toList
      behind := "A> $x many ".toList
      nonempty := by decide
      areBlank := List.all_eq_true.mp rfl
      frontEnds := ⟨',', by decide, by decide⟩
      behindBegins := ⟨'A', by decide, by decide⟩ }
  have broken := parse_rewrapped "/** @param array<int,  A> $x many */" [] [] place "\t ".toList
    (by decide +kernel) (List.all_eq_true.mp rfl) (by decide) (fun _ => by decide +kernel)
    (by decide +kernel)
  refine ⟨?_, by decide +kernel⟩
  rw [← broken.2]
  congr 1

end Comment

end ParamTypes
