import Mathlib.Logic.Relation
import ParamTypes.Proofs.Respacing.TypeExpr
import ParamTypes.Proofs.TypeExpr.Spelling

/-!
Type expressions of which the blanks are edited: a run of blanks is exchanged for another
one, or blanks are put around the expression or taken away there.

However often this is done, the expression is read alike (`UnionType.parse_of_blankEdits`).
-/

namespace ParamTypes

namespace Text

/-! ## Edits -/

/-- One edit of the blanks in a text. Inside, none are put where none were, and none
are left out altogether. -/
inductive BlankEdit : (first second : List Char) → Prop
  /-- A run of blanks is exchanged for another one. It may be part of a longer run. -/
  | exchange {before blanks others after : List Char} (nonempty : blanks ≠ [])
      (areBlank : ∀ blank ∈ blanks, isBlank blank = true) (othersNonempty : others ≠ [])
      (othersAreBlank : ∀ blank ∈ others, isBlank blank = true) :
      BlankEdit (before ++ (blanks ++ after)) (before ++ (others ++ after))
  /-- The blanks at the two ends are exchanged for others. There may be none. -/
  | ends {before after otherBefore otherAfter text : List Char}
      (areBlank : ∀ blank ∈ before ++ after, isBlank blank = true)
      (othersAreBlank : ∀ blank ∈ otherBefore ++ otherAfter, isBlank blank = true) :
      BlankEdit (before ++ (text ++ after)) (otherBefore ++ (text ++ otherAfter))

theorem trim_between_blanks {before after : List Char}
    (areBlank : ∀ blank ∈ before ++ after, isBlank blank = true) (text : List Char) :
    trim (before ++ (text ++ after)) = trim text := by
  rcases List.forall_mem_append.mp areBlank with ⟨blanksBefore, blanksAfter⟩
  rw [trim_blanks_append blanksBefore, trim_append_blanks blanksAfter]

theorem BlankEdit.respaced_trim {first second : List Char} (edit : BlankEdit first second) :
    Respaced (trim first) (trim second) := by
  cases edit with
  | exchange nonempty areBlank othersNonempty othersAreBlank =>
      apply Respaced.trim
      apply (Respaced.refl _).append
      exact .exchange nonempty areBlank othersNonempty othersAreBlank (.refl _)
  | ends areBlank othersAreBlank =>
      rw [trim_between_blanks areBlank, trim_between_blanks othersAreBlank]
      exact .refl _

end Text

open Text Relation

/-! ## Reading -/

theorem TypeExpr.atoms_of_blankEdit {first second : List Char} (edit : BlankEdit first second) :
    atoms first = atoms second := by
  rw [← atoms_trim first, ← atoms_trim second]
  exact atoms_congr edit.respaced_trim

theorem TypeExpr.atoms_of_blankEdits {first second : List Char}
    (edits : ReflTransGen BlankEdit first second) : atoms first = atoms second := by
  induction edits with
  | refl => rfl
  | tail _ edit same => exact same.trans (atoms_of_blankEdit edit)

namespace UnionType

/-- Edits of blanks change neither the type that is read, the order of its atoms included,
nor the fault for which an expression is refused. The report of a fault quotes the
expression as it stands. -/
theorem parse_of_blankEdits {first second : String}
    (edits : ReflTransGen BlankEdit first.toList second.toList) :
    parse second = (parse first).mapError fun error => ⟨second, error.fault⟩ := by
  rw [parse, parse, TypeExpr.atoms_of_blankEdits edits]
  cases TypeExpr.atoms second.toList with
  | ok found => rfl
  | error fault => rfl

theorem parse_of_blankEdits_group :
    parse "\u3000?(\r\n\tint |A)" = parse "?( int |A)" ∧
      parse "?( int |A)" = .ok (.ofList [.keyword .null, .keyword .int, .named "A"]) := by
  have read : parse "?( int |A)" =
      .ok (.ofList [.keyword .null, .keyword .int, .named "A"]) := by
    decide +kernel
  have exchanged : BlankEdit "?( int |A)".toList "?(\r\n\tint |A)".toList :=
    @BlankEdit.exchange "?(".toList " ".toList "\r\n\t".toList "int |A)".toList
      (by decide) (List.all_eq_true.mp rfl) (by decide) (List.all_eq_true.mp rfl)
  have surrounded : BlankEdit "?(\r\n\tint |A)".toList "\u3000?(\r\n\tint |A)".toList :=
    @BlankEdit.ends [] [] "\u3000".toList [] "?(\r\n\tint |A)".toList
      (List.all_eq_true.mp rfl) (List.all_eq_true.mp rfl)
  have same := parse_of_blankEdits ((ReflTransGen.single exchanged).tail surrounded)
  rw [read] at same ⊢
  exact ⟨same, rfl⟩

end UnionType

end ParamTypes
