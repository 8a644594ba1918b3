import Mathlib.Data.List.Forall2
import ParamTypes.Comment.Read

/-!
The lines of a comment as blocks. A block is the word of a tag and the text
behind it, up to the next tag. The scan of the lines, with the one tag that it
keeps open, takes up block after block.
-/

namespace ParamTypes

namespace Tag

theorem mem_of_ofWord? {word : List Char} {tag : Tag} (isTag : ofWord? word = some tag) :
    (word, tag) ∈ [("param".toList, param), ("return".toList, returns),
      ("returns".toList, returns)] := by
  rcases List.lookup_eq_some_iff.mp isTag with ⟨before, after, parts, _⟩
  rw [parts]
  exact List.mem_append_right _ List.mem_cons_self

theorem ofWord?_eq_param_iff {word : List Char} :
    ofWord? word = some .param ↔ word = "param".toList := by
  constructor
  · intro isParam
    simpa using mem_of_ofWord? isParam
  · rintro rfl
    rfl

theorem ofWord?_eq_returns_iff {word : List Char} :
    ofWord? word = some .returns ↔ word ∈ ["return".toList, "returns".toList] := by
  constructor
  · intro isReturn
    simpa using mem_of_ofWord? isReturn
  · intro member
    simp only [List.mem_cons, List.not_mem_nil, or_false] at member
    rcases member with rfl | rfl <;> rfl

end Tag

namespace Comment

/-- A tag with its whole text. -/
structure Block where
  word : List Char
  text : List Char
deriving DecidableEq

namespace Block

/-- What the lines in front of the next tag add to a text. -/
def continuation : (lines : List Line) → List Char
  | [] => []
  | .tag _ _ :: _ => []
  | .text content :: lines => ' ' :: content ++ continuation lines

theorem isBlank_of_mem_head?_continuation {lines : List Line} {first : Char}
    (begins : first ∈ (continuation lines).head?) : Text.isBlank first = true := by
  cases lines with
  | nil => cases begins
  | cons line lines =>
      cases line with
      | tag word rest => cases begins
      | text content =>
          cases begins
          rfl

/-- The blocks of some lines from top to bottom. Text in front of the first tag
belongs to none. -/
def all : (lines : List Line) → List Block
  | [] => []
  | .tag word rest :: lines => ⟨word, rest ++ continuation lines⟩ :: all lines
  | .text _ :: lines => all lines

example :
    all [.text "a".toList, .tag "b".toList " c".toList, .text "d".toList, .tag [] []] =
      [⟨"b".toList, " c d".toList⟩, ⟨[], []⟩] := by
  decide

def isParam (block : Block) : Bool :=
  Tag.ofWord? block.word = some .param

def parameter? (block : Block) : Option DocParameter :=
  if block.isParam then some (ParamTag.read block.text) else none

def isReturn (block : Block) : Bool :=
  Tag.ofWord? block.word = some .returns

def returnType? (block : Block) : Option UnionType :=
  if block.isReturn then ParamTag.readType? block.text else none

theorem filterMap_parameter? (blocks : List Block) :
    blocks.filterMap parameter? = (blocks.filter isParam).map (ParamTag.read ·.text) := by
  rw [← List.filterMap_eq_map, List.filterMap_filter]
  rfl

theorem findSome?_returnType? (blocks : List Block) :
    blocks.findSome? returnType? =
      (blocks.filter isReturn).findSome? (ParamTag.readType? ·.text) := by
  rw [← List.head?_filterMap, ← List.head?_filterMap, List.filterMap_filter]
  rfl

end Block

def recordBlock (comment : Comment) (block : Block) : Comment :=
  match Tag.ofWord? block.word with
  | some tag => comment.record tag block.text
  | none => comment

/-! ## The open tag -/

namespace Scan

def extend (scan : Scan) (more : List Char) : Scan :=
  { scan with openTag := scan.openTag.map fun (tag, text) => (tag, text ++ more) }

theorem extend_nil (scan : Scan) : scan.extend [] = scan := by
  rcases scan with ⟨comment, none | ⟨tag, text⟩⟩
  · rfl
  · simp [extend]

theorem extend_extend (scan : Scan) (more others : List Char) :
    (scan.extend more).extend others = scan.extend (more ++ others) := by
  rcases scan with ⟨comment, none | ⟨tag, text⟩⟩
  · rfl
  · simp [extend]

theorem step_text (scan : Scan) (content : List Char) :
    scan.step (.text content) = scan.extend (' ' :: content) :=
  rfl

theorem close_extend_step_tag (scan : Scan) (word rest more : List Char) :
    ((scan.step (.tag word rest)).extend more).close =
      recordBlock scan.close ⟨word, rest ++ more⟩ := by
  rw [step, recordBlock]
  cases Tag.ofWord? word with
  | none => rfl
  | some tag => rfl

/-- The text of the open tag is complete in front of the next tag, so the lines
that are left extend it by their continuation and then count by their blocks. -/
theorem close_foldl_step (scan : Scan) (lines : List Line) :
    (lines.foldl step scan).close =
      (Block.all lines).foldl recordBlock (scan.extend (Block.continuation lines)).close := by
  induction lines generalizing scan with
  | nil =>
      rw [Block.continuation, extend_nil]
      rfl
  | cons line lines induction =>
      rw [List.foldl_cons, induction]
      cases line with
      | text content =>
          rw [step_text, extend_extend, Block.all, Block.continuation]
      | tag word rest =>
          have closed : Block.continuation (.tag word rest :: lines) = [] := rfl
          rw [close_extend_step_tag, Block.all, List.foldl_cons, closed, extend_nil]

end Scan

theorem ofLines_eq_foldl (lines : List Line) :
    ofLines lines = (Block.all lines).foldl recordBlock ∅ :=
  Scan.close_foldl_step .start lines

/-! ## Documented parameters -/

theorem parameters_recordBlock (comment : Comment) (block : Block) :
    (comment.recordBlock block).parameters =
      comment.parameters ++ block.parameter?.toList := by
  rw [recordBlock, Block.parameter?, Block.isParam]
  cases Tag.ofWord? block.word with
  | none => simp
  | some tag =>
      cases tag with
      | param => rfl
      | returns =>
          simp only [record]
          split <;> simp

theorem parameters_foldl_recordBlock (comment : Comment) (blocks : List Block) :
    (blocks.foldl recordBlock comment).parameters =
      comment.parameters ++ blocks.filterMap Block.parameter? := by
  induction blocks generalizing comment with
  | nil => simp
  | cons block blocks induction =>
      rw [List.foldl_cons, induction, parameters_recordBlock, List.append_assoc,
        List.filterMap_cons]
      cases block.parameter? <;> rfl

theorem parameters_ofLines (lines : List Line) :
    (ofLines lines).parameters = (Block.all lines).filterMap Block.parameter? := by
  rw [ofLines_eq_foldl, parameters_foldl_recordBlock]
  rfl

/-! ## Documented return types -/

theorem returnType_recordBlock (comment : Comment) (block : Block) :
    (comment.recordBlock block).returnType =
      comment.returnType.or block.returnType? := by
  rw [recordBlock, Block.returnType?, Block.isReturn]
  cases Tag.ofWord? block.word with
  | none => simp
  | some tag =>
      cases tag with
      | param => simp [record]
      | returns =>
          cases known : comment.returnType <;> cases given : ParamTag.readType? block.text <;>
            simp [record, known, given]

theorem returnType_foldl_recordBlock (comment : Comment) (blocks : List Block) :
    (blocks.foldl recordBlock comment).returnType =
      comment.returnType.or (blocks.findSome? Block.returnType?) := by
  induction blocks generalizing comment with
  | nil => simp
  | cons block blocks induction =>
      rw [List.foldl_cons, induction, returnType_recordBlock, Option.or_assoc,
        List.findSome?_cons]
      cases block.returnType? <;> rfl

theorem returnType_ofLines (lines : List Line) :
    (ofLines lines).returnType = (Block.all lines).findSome? Block.returnType? := by
  rw [ofLines_eq_foldl, returnType_foldl_recordBlock]
  rfl

/-! ## Blocks that say the same -/

structure Block.Agrees (block other : Block) : Prop where
  parameter : block.parameter? = other.parameter?
  returnType : block.returnType? = other.returnType?

namespace Block

variable {blocks others : List Block}

theorem filterMap_parameter?_eq (agree : List.Forall₂ Agrees blocks others) :
    blocks.filterMap parameter? = others.filterMap parameter? := by
  induction agree with
  | nil => rfl
  | cons block rest induction =>
      rw [List.filterMap_cons, List.filterMap_cons, block.parameter, induction]

theorem findSome?_returnType?_eq (agree : List.Forall₂ Agrees blocks others) :
    blocks.findSome? returnType? = others.findSome? returnType? := by
  induction agree with
  | nil => rfl
  | cons block rest induction =>
      rw [List.findSome?_cons, List.findSome?_cons, block.returnType, induction]

end Block

theorem ofLines_eq_of_agrees {lines others : List Line}
    (agree : List.Forall₂ Block.Agrees (Block.all lines) (Block.all others)) :
    ofLines lines = ofLines others := by
  apply Comment.ext
  · rw [parameters_ofLines, parameters_ofLines, Block.filterMap_parameter?_eq agree]
  · rw [returnType_ofLines, returnType_ofLines, Block.findSome?_returnType?_eq agree]

end Comment

end ParamTypes
