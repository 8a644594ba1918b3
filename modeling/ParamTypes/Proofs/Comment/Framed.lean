import ParamTypes.Proofs.Comment.EmptyLines
import ParamTypes.Proofs.Respacing.Blocks

/-!
Comments with and without a frame: the delimiters on lines of their own, and a gutter in
front of every line between them.

A line is read alike in both. The two lists of lines then differ in empty lines at their
ends only, from which a comment gains nothing (`Comment.parse_framedText`).
-/

namespace ParamTypes

open Text

/-! ## Blanks around a text -/

namespace Line

theorem readPieces_blanks_append {blanks : List Char}
    (areBlank : ∀ blank ∈ blanks, isBlank blank = true) (text : List Char) :
    ∃ count, readPieces (blanks ++ text) = Comment.emptyLines count ++ readPieces text := by
  induction blanks with
  | nil => exact ⟨0, rfl⟩
  | cons blank blanks induction =>
      rw [List.forall_mem_cons] at areBlank
      rcases induction areBlank.2 with ⟨count, parts⟩
      rw [List.cons_append, readPieces, List.splitOn_cons_eq_if_modifyHead]
      split
      · refine ⟨count + 1, ?_⟩
        rw [List.map_cons, ← readPieces, parts, read_of_blank (List.forall_mem_nil _)]
        rfl
      · -- The blank joins the next line, which is read as before.
        refine ⟨count, ?_⟩
        rw [← parts, readPieces]
        rcases List.exists_cons_of_ne_nil (List.splitOn_ne_nil '\n' (blanks ++ text)) with
          ⟨first, others, lines⟩
        rw [lines, List.modifyHead_cons, List.map_cons, List.map_cons]
        congr 1
        apply read_of_content_eq
        exact content_blanks_append (List.forall_mem_singleton.mpr areBlank.1) first

theorem splitOn_append_of_not_mem {rest : List Char} (oneLine : '\n' ∉ rest)
    (text : List Char) :
    ∃ before last, text.splitOn '\n' = before ++ [last] ∧
      (text ++ rest).splitOn '\n' = before ++ [last ++ rest] := by
  rcases List.eq_nil_or_concat' (text.splitOn '\n') with nothing | ⟨before, last, lines⟩
  · exact absurd nothing (List.splitOn_ne_nil '\n' text)
  · refine ⟨before, last, lines, ?_⟩
    have oneLines : ∀ line ∈ before ++ [last ++ rest], '\n' ∉ line := by
      have old : ∀ line ∈ before ++ [last], '\n' ∉ line := by
        intro line member
        rw [← lines] at member
        exact not_mem_of_mem_splitOn member
      rw [List.forall_mem_append, List.forall_mem_singleton] at old ⊢
      refine ⟨old.1, ?_⟩
      rw [List.mem_append, not_or]
      exact ⟨old.2, oneLine⟩
    have joined : ['\n'].intercalate (before ++ [last ++ rest]) = text ++ rest := by
      have whole : ['\n'].intercalate (text.splitOn '\n') = text := List.intercalate_splitOn '\n'
      rw [← whole, lines]
      by_cases alone : before = []
      · rw [alone, List.nil_append, List.nil_append, List.intercalate_singleton,
          List.intercalate_singleton]
      · rw [intercalate_append _ alone (List.cons_ne_nil _ _),
          intercalate_append _ alone (List.cons_ne_nil _ _), List.intercalate_singleton,
          List.intercalate_singleton, List.append_assoc, List.append_assoc, List.append_assoc]
    rw [← joined, List.splitOn_intercalate '\n' oneLines (by simp)]

theorem readPieces_append_blanks {blanks : List Char}
    (areBlank : ∀ blank ∈ blanks, isBlank blank = true) (text : List Char) :
    ∃ count, readPieces (text ++ blanks) = readPieces text ++ Comment.emptyLines count := by
  induction blanks using List.reverseRecOn with
  | nil => exact ⟨0, by rw [List.append_nil]; exact (List.append_nil _).symm⟩
  | append_singleton blanks blank induction =>
      rw [List.forall_mem_append, List.forall_mem_singleton] at areBlank
      rcases induction areBlank.1 with ⟨count, parts⟩
      rw [← List.append_assoc]
      by_cases isBreak : blank = '\n'
      · refine ⟨count + 1, ?_⟩
        rw [isBreak, readPieces, List.splitOn_append_cons_self, List.map_append, ← readPieces,
          parts, List.append_assoc, Comment.emptyLines_succ', List.splitOn_nil, List.map_singleton,
          read_of_blank (List.forall_mem_nil _)]
      · refine ⟨count, ?_⟩
        have oneLine : '\n' ∉ [blank] := by simpa using Ne.symm isBreak
        rcases splitOn_append_of_not_mem oneLine (text ++ blanks) with
          ⟨before, last, lines, longer⟩
        have same : read (last ++ [blank]) = read last :=
          read_of_content_eq
            (content_append_blanks (List.forall_mem_singleton.mpr areBlank.2) last)
        rw [← parts, readPieces, longer, readPieces, lines, List.map_append, List.map_append,
          List.map_singleton, List.map_singleton, same]

end Line

namespace Comment

theorem ofLines_readPieces_trim (text : List Char) :
    ofLines (Line.readPieces (trim text)) = ofLines (Line.readPieces text) := by
  rcases exists_trim text with ⟨before, after, parts, blankBefore, blankAfter⟩
  rcases Line.readPieces_append_blanks blankAfter (trim text) with ⟨behind, shorter⟩
  rcases Line.readPieces_blanks_append blankBefore (trim text ++ after) with ⟨front, longer⟩
  rw [← List.append_assoc, ← parts, shorter] at longer
  rw [longer, ofLines_emptyLines]

theorem parse_of_no_delimiters {text : List Char}
    (unopened : stripStart? ['/', '*', '*'] (trim text) = none)
    (unclosed : stripEnd? ['*', '/'] (trim text) = none) :
    parse (String.ofList text) = ofLines (Line.readPieces text) := by
  have body : Line.body text = trim text := by
    rw [Line.body, unopened, Option.getD_none, unclosed, Option.getD_none]
  rw [parse_eq_ofLines_readPieces, String.toList_ofList, body, ofLines_readPieces_trim]

end Comment

/-! ## Line ends and gutters -/

namespace Line

inductive Ending
  | lineFeed
  | returnAndLineFeed
deriving DecidableEq

namespace Ending

def front : Ending → List Char
  | lineFeed => []
  | returnAndLineFeed => ['\r']

def text (ending : Ending) : List Char :=
  ending.front ++ ['\n']

theorem isBlank_of_mem_front (ending : Ending) :
    ∀ blank ∈ ending.front, isBlank blank = true := by
  cases ending <;> exact List.all_eq_true.mp rfl

theorem isBlank_of_mem_text (ending : Ending) :
    ∀ blank ∈ ending.text, isBlank blank = true := by
  cases ending <;> exact List.all_eq_true.mp rfl

theorem not_mem_front (ending : Ending) : '\n' ∉ ending.front := by
  cases ending <;> decide

theorem respaced_text (ending : Ending) : Respaced ending.text ['\n'] :=
  .of_blanks (List.append_ne_nil_of_right_ne_nil _ (List.cons_ne_nil _ _))
    ending.isBlank_of_mem_text (List.cons_ne_nil _ _) (List.all_eq_true.mp rfl)

end Ending

theorem readPieces_append_ending {line : List Char} (oneLine : '\n' ∉ line) (ending : Ending)
    (rest : List Char) :
    readPieces (line ++ (ending.text ++ rest)) = read line :: readPieces rest := by
  have parts : line ++ (ending.text ++ rest) = (line ++ ending.front) ++ '\n' :: rest := by
    simp [Ending.text]
  have inFront : '\n' ∉ line ++ ending.front := by
    rw [List.mem_append, not_or]
    exact ⟨oneLine, ending.not_mem_front⟩
  have same : read (line ++ ending.front) = read line :=
    read_of_content_eq (content_append_blanks ending.isBlank_of_mem_front line)
  rw [readPieces, parts, List.splitOn_append_cons_self_of_not_mem inFront, List.map_cons, same,
    readPieces]

theorem readPieces_of_not_mem {line : List Char} (oneLine : '\n' ∉ line) :
    readPieces line = [read line] := by
  rw [readPieces, List.splitOn_eq_singleton oneLine, List.map_singleton]

/-- A line of text that begins with no star, with the gutter in front of it and the line
end behind it. -/
structure Framed where
  indentation : List Char
  moreStars : Nat
  content : List Char
  ending : Ending
  areBlank : ∀ blank ∈ indentation, isBlank blank = true
  oneIndentation : '\n' ∉ indentation
  oneLine : '\n' ∉ content
  noStar : (trim content).head? ≠ some '*'

namespace Framed

def text (line : Framed) : List Char :=
  line.indentation ++ (List.replicate (line.moreStars + 1) '*' ++ ' ' :: line.content)

theorem not_mem_text (line : Framed) : '\n' ∉ line.text := by
  simp [text, line.oneIndentation, line.oneLine]

theorem read_text (line : Framed) : read line.text = read line.content := by
  apply read_of_content_eq
  rw [text, content_behind_stars line.areBlank, content_of_no_star line.noStar]

end Framed

end Line

/-! ## Comments with and without a frame -/

namespace Comment

def joinedText (lines : List Line.Framed) : List Char :=
  ['\n'].intercalate (lines.map Line.Framed.content)

/-- The contents of the lines with their own line ends between them. -/
def plainText : List Line.Framed → List Char
  | [] => []
  | [line] => line.content
  | line :: next :: lines => line.content ++ (line.ending.text ++ plainText (next :: lines))

/-- The lines in their gutters, between delimiters on lines of their own. -/
def framedText (start : Line.Ending) (lines : List Line.Framed) : List Char :=
  "/**".toList ++
    (start.text ++ (lines.flatMap (fun line => line.text ++ line.ending.text) ++ " */".toList))

theorem ofLines_readPieces_nil : ofLines (Line.readPieces []) = ofLines [] := by
  rw [Line.readPieces_of_not_mem List.not_mem_nil, Line.read_of_blank (List.forall_mem_nil _)]
  exact ofLines_emptyLines 1 [] 0

theorem ofLines_readPieces_joinedText (lines : List Line.Framed) :
    ofLines (Line.readPieces (joinedText lines)) = ofLines (lines.map (Line.read ·.content)) := by
  cases lines with
  | nil => exact ofLines_readPieces_nil
  | cons line lines =>
      have oneLine : ∀ text ∈ (line :: lines).map Line.Framed.content, '\n' ∉ text := by
        intro text member
        rcases List.mem_map.mp member with ⟨other, _, rfl⟩
        exact other.oneLine
      rw [joinedText, Line.readPieces, List.splitOn_intercalate '\n' oneLine (List.cons_ne_nil _ _),
        List.map_map]
      rfl

theorem readPieces_plainText (line : Line.Framed) (lines : List Line.Framed) :
    Line.readPieces (plainText (line :: lines)) = (line :: lines).map (Line.read ·.content) := by
  induction lines generalizing line with
  | nil => exact Line.readPieces_of_not_mem line.oneLine
  | cons next lines induction =>
      rw [plainText, Line.readPieces_append_ending line.oneLine, induction]
      rfl

theorem ofLines_readPieces_plainText (lines : List Line.Framed) :
    ofLines (Line.readPieces (plainText lines)) = ofLines (lines.map (Line.read ·.content)) := by
  cases lines with
  | nil => exact ofLines_readPieces_nil
  | cons line lines => rw [readPieces_plainText]

theorem respaced_plainText (lines : List Line.Framed) :
    Respaced (plainText lines) (joinedText lines) := by
  rw [joinedText]
  induction lines with
  | nil => exact .nil
  | cons line lines induction =>
      cases lines with
      | nil =>
          rw [List.map_singleton, List.intercalate_singleton]
          exact .refl line.content
      | cons next lines =>
          rw [plainText, List.map_cons, List.map_cons, List.intercalate_cons_cons,
            List.append_assoc]
          exact (Respaced.refl line.content).append (line.ending.respaced_text.append induction)

theorem readPieces_frame (lines : List Line.Framed) :
    Line.readPieces (lines.flatMap (fun line => line.text ++ line.ending.text) ++ [' ']) =
      lines.map (Line.read ·.content) ++ [.text []] := by
  induction lines with
  | nil =>
      rw [List.flatMap_nil, List.nil_append, Line.readPieces_of_not_mem (by decide),
        Line.read_of_blank (List.all_eq_true.mp rfl)]
      rfl
  | cons line lines induction =>
      rw [List.flatMap_cons, List.append_assoc, List.append_assoc,
        Line.readPieces_append_ending line.not_mem_text, line.read_text, induction]
      rfl

theorem body_framedText (start : Line.Ending) (lines : List Line.Framed) :
    Line.body (framedText start lines) =
      start.text ++ (lines.flatMap (fun line => line.text ++ line.ending.text) ++ [' ']) := by
  generalize inner : lines.flatMap (fun line => line.text ++ line.ending.text) = middle
  have parts : framedText start lines =
      ['/', '*', '*'] ++ ((start.text ++ (middle ++ [' '])) ++ ['*', '/']) := by
    simp [framedText, inner]
  have trimmed : trim (framedText start lines) = framedText start lines := by
    apply trim_of_ends
    · intro first begins
      cases begins
      decide
    · intro last ends
      rw [parts, ← List.append_assoc, List.getLast?_append_of_ne_nil _ (by decide)] at ends
      cases ends
      decide
  rw [Line.body, trimmed, parts, stripStart?_eq_some_iff.mpr rfl, Option.getD_some,
    stripEnd?_eq_some_iff.mpr rfl, Option.getD_some]

theorem parse_framedText_eq_ofLines (start : Line.Ending) (lines : List Line.Framed) :
    parse (String.ofList (framedText start lines)) =
      ofLines (lines.map (Line.read ·.content)) := by
  have opened := Line.readPieces_append_ending List.not_mem_nil start
    (lines.flatMap (fun line => line.text ++ line.ending.text) ++ [' '])
  rw [List.nil_append, Line.read_of_blank (List.forall_mem_nil _), readPieces_frame] at opened
  have one : emptyLines 1 = [.text []] := rfl
  rw [parse_eq_ofLines_readPieces, String.toList_ofList, body_framedText, opened,
    ← List.singleton_append, ← one, ofLines_emptyLines]

theorem parse_of_respaced {text other : List Char} (respaced : Respaced text other)
    (noStart : ¬ ['/', '*', '*'] <+: trim other) (noEnd : ¬ ['*', '/'] <:+ trim other) :
    parse (String.ofList text) = ofLines (Line.readPieces text) := by
  have trimmed := respaced.trim
  apply parse_of_no_delimiters
  · rw [(trimmed.stripStart? fun _ => eq_false_of_mem (by decide)).eq_none_iff]
    exact stripStart?_eq_none_iff.mpr noStart
  · rw [(trimmed.stripEnd? fun _ => eq_false_of_mem (by decide)).eq_none_iff]
    exact stripEnd?_eq_none_iff.mpr noEnd

/-- Lines make up the same comment between delimiters and behind gutters as on their own,
whatever the gutters and whatever the line ends. On their own they must not look like
delimiters at the two ends. -/
theorem parse_framedText (start : Line.Ending) (lines : List Line.Framed)
    (noStart : ¬ ['/', '*', '*'] <+: trim (joinedText lines))
    (noEnd : ¬ ['*', '/'] <:+ trim (joinedText lines)) :
    parse (String.ofList (framedText start lines)) = parse (String.ofList (joinedText lines)) ∧
      parse (String.ofList (plainText lines)) = parse (String.ofList (joinedText lines)) := by
  have joined := parse_of_respaced (.refl (joinedText lines)) noStart noEnd
  rw [ofLines_readPieces_joinedText] at joined
  constructor
  · rw [joined, parse_framedText_eq_ofLines]
  · rw [joined, parse_of_respaced (respaced_plainText lines) noStart noEnd,
      ofLines_readPieces_plainText]

theorem parse_framedText_generic :
    parse "/**\r\n\t** @param array<int,\r\n * A> $x\n */" =
        parse "@param array<int,\nA> $x" ∧
      parse "@param array<int,\r\nA> $x" = parse "@param array<int,\nA> $x" ∧
      (parse "@param array<int,\nA> $x").parameters = [⟨"x", .ofKeyword .array, false⟩] := by
  let opened : Line.Framed :=
    { indentation := ['\t']
      moreStars := 1
      content := "@param array<int,".toList
      ending := .returnAndLineFeed
      areBlank := List.all_eq_true.mp rfl
      oneIndentation := by decide
      oneLine := by decide
      noStar := by decide }
  let closed : Line.Framed :=
    { indentation := [' ']
      moreStars := 0
      content := "A> $x".toList
      ending := .lineFeed
      areBlank := List.all_eq_true.mp rfl
      oneIndentation := by decide
      oneLine := by decide
      noStar := by decide }
  have framed := parse_framedText .returnAndLineFeed [opened, closed] (by decide) (by decide)
  refine ⟨?_, ?_, by decide +kernel⟩
  · exact framed.1
  · exact framed.2

end Comment

end ParamTypes
