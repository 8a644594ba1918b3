import ParamTypes.Proofs.Comment.Blocks
import ParamTypes.Proofs.Comment.Content

/-!
Empty lines at the two ends of a comment, from which it gains nothing.

The pieces between the line feeds of a text are its lines, but for the carriage returns at
their ends and an empty piece behind the last line feed. A comment can be read from the pieces
of its body all the same (`Comment.parse_eq_ofLines_readPieces`).
-/

namespace ParamTypes

open Text

namespace Comment

/-! ## Empty lines -/

def emptyLines (count : Nat) : List Line :=
  List.replicate count (.text [])

theorem emptyLines_succ (count : Nat) :
    emptyLines (count + 1) = .text [] :: emptyLines count :=
  List.replicate_succ

theorem emptyLines_succ' (count : Nat) :
    emptyLines (count + 1) = emptyLines count ++ [.text []] :=
  List.replicate_succ'

namespace Block

theorem continuation_emptyLines (count : Nat) :
    continuation (emptyLines count) = List.replicate count ' ' := by
  induction count with
  | zero => rfl
  | succ count induction =>
      rw [emptyLines_succ, continuation, induction]
      rfl

theorem all_emptyLines_append (count : Nat) (lines : List Line) :
    all (emptyLines count ++ lines) = all lines := by
  induction count with
  | zero => rfl
  | succ count induction => rw [emptyLines_succ, List.cons_append, all, induction]

theorem agrees_of_trim_eq (word : List Char) {text other : List Char}
    (same : trim text = trim other) : Agrees ⟨word, text⟩ ⟨word, other⟩ where
  parameter := by
    have read : ParamTag.read text = ParamTag.read other := by
      rw [ParamTag.read, ParamTag.read, same]
    rw [parameter?, parameter?, isParam, isParam, read]
  returnType := by
    rw [returnType?, returnType?, isReturn, isReturn, ParamTag.readType?, ParamTag.readType?, same]

/-- Empty lines at the end add spaces to the last block, which do not count there. -/
theorem all_append_emptyLines (lines : List Line) (count : Nat) :
    (∃ blanks : List Char, (∀ blank ∈ blanks, isBlank blank = true) ∧
        continuation (lines ++ emptyLines count) = continuation lines ++ blanks) ∧
      List.Forall₂ Agrees (all (lines ++ emptyLines count)) (all lines) := by
  induction lines with
  | nil =>
      constructor
      · refine ⟨List.replicate count ' ', ?_, continuation_emptyLines count⟩
        intro blank member
        rw [List.eq_of_mem_replicate member]
        decide
      · rw [List.nil_append, ← List.append_nil (emptyLines count), all_emptyLines_append]
        exact .nil
  | cons line lines induction =>
      rcases induction with ⟨⟨blanks, areBlank, continued⟩, agree⟩
      rw [List.cons_append]
      cases line with
      | tag word rest =>
          refine ⟨⟨[], List.forall_mem_nil _, rfl⟩, .cons ?_ agree⟩
          rw [continued, ← List.append_assoc]
          exact agrees_of_trim_eq word (trim_append_blanks areBlank _)
      | text content =>
          refine ⟨⟨blanks, areBlank, ?_⟩, agree⟩
          rw [continuation, continuation, continued, List.append_assoc]

end Block

theorem ofLines_emptyLines (before : Nat) (lines : List Line) (after : Nat) :
    ofLines (emptyLines before ++ (lines ++ emptyLines after)) = ofLines lines := by
  apply ofLines_eq_of_agrees
  rw [Block.all_emptyLines_append]
  exact (Block.all_append_emptyLines lines after).2

end Comment

/-! ## Pieces of a text -/

namespace Line

/-- What stands between the line feeds of a text, each piece read as a line. -/
def readPieces (text : List Char) : List Line :=
  (text.splitOn '\n').map read

theorem read_withoutReturn (line : List Char) : read (withoutReturn line) = read line := by
  rw [withoutReturn]
  cases stripped : stripEnd? ['\r'] line with
  | none => rfl
  | some front =>
      rw [stripEnd?_eq_some_iff.mp stripped]
      apply read_of_content_eq
      exact (content_append_blanks (List.all_eq_true.mp rfl) front).symm

/-- The pieces of a text are its lines, and an empty one if it ends in a line feed. -/
theorem exists_readPieces (text : List Char) :
    ∃ count, readPieces text = (lines text).map read ++ Comment.emptyLines count := by
  rcases List.eq_nil_or_concat' (text.splitOn '\n') with nothing | ⟨before, last, pieces⟩
  · exact absurd nothing (List.splitOn_ne_nil '\n' text)
  · have same : (before.map withoutReturn).map read = before.map read := by
      simp only [List.map_map, Function.comp_def, read_withoutReturn]
    rw [readPieces, lines, pieces]
    simp only [List.dropLast_concat, List.getLast?_concat, List.map_append, same]
    by_cases ended : last = []
    · -- The empty piece behind the last line feed is no line.
      refine ⟨1, ?_⟩
      rw [ended, List.map_singleton, read_of_blank (List.forall_mem_nil _)]
      simp [Comment.emptyLines]
    · refine ⟨0, ?_⟩
      simp [Comment.emptyLines, ended]

end Line

theorem Comment.parse_eq_ofLines_readPieces (source : String) :
    parse source = ofLines (Line.readPieces (Line.body source.toList)) := by
  rcases Line.exists_readPieces (Line.body source.toList) with ⟨count, pieces⟩
  rw [pieces, parse, Line.all]
  exact (ofLines_eq_of_agrees (Block.all_append_emptyLines _ count).2).symm

end ParamTypes
