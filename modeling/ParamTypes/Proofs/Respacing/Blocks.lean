import ParamTypes.Proofs.Respacing.ParamTag

/-!
Lines of which the blocks differ in their runs of blanks only. Such lines make up the
same comment.
-/

namespace ParamTypes.Comment

open Text

/-! ## Blocks -/

structure Block.Respaced (block other : Block) : Prop where
  word : block.word = other.word
  text : Text.Respaced block.text other.text

namespace Block.Respaced

variable {block other : Block}

theorem refl (block : Block) : Block.Respaced block block :=
  ⟨rfl, .refl block.text⟩

theorem agrees (respaced : Block.Respaced block other) : block.Agrees other where
  parameter := by
    rw [parameter?, parameter?, isParam, isParam, respaced.word,
      ParamTag.read_congr respaced.text]
  returnType := by
    rw [returnType?, returnType?, isReturn, isReturn, respaced.word,
      ParamTag.readType?_congr respaced.text]

end Block.Respaced

/-! ## Lines -/

/-- Lines that give an open tag the same text, besides runs of blanks, and make up the
same blocks. -/
structure RespacedLines (lines others : List Line) : Prop where
  continuation : Text.Respaced (Block.continuation lines) (Block.continuation others)
  blocks : List.Forall₂ Block.Respaced (Block.all lines) (Block.all others)

namespace RespacedLines

variable {lines others : List Line}

theorem cons (respaced : RespacedLines lines others) (line : Line) :
    RespacedLines (line :: lines) (line :: others) := by
  cases line with
  | tag word rest =>
      exact ⟨.nil, .cons ⟨rfl, (Text.Respaced.refl rest).append respaced.continuation⟩
        respaced.blocks⟩
  | text content =>
      exact ⟨(Text.Respaced.refl (' ' :: content)).append respaced.continuation,
        respaced.blocks⟩

theorem append_left (respaced : RespacedLines lines others) (before : List Line) :
    RespacedLines (before ++ lines) (before ++ others) := by
  induction before with
  | nil => exact respaced
  | cons line before induction => exact induction.cons line

theorem ofLines_eq (respaced : RespacedLines lines others) : ofLines lines = ofLines others :=
  ofLines_eq_of_agrees (respaced.blocks.imp fun _ _ block => block.agrees)

end RespacedLines

end ParamTypes.Comment
