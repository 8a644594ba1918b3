import ParamTypes.Proofs.TypeExpr.Cut

/-!
The pieces of a type expression by counts of its brackets and bars alone. A text has
pieces exactly if it closes what it opens and nothing else, and the pieces are the only
balanced texts without bars outside their brackets that give the text when they are
joined by bars.
-/

namespace ParamTypes.TypeExpr

open Text

/-! ## Depth -/

theorem depthStep?_eq_some_iff {depth inner : Nat} {character : Char} :
    depthStep? depth character = some inner ↔
      (inner : Int) = depth + balance opensBracket closesBracket [character] := by
  rw [depthStep?_eq]
  split
  · rename_i ends
    rw [balance_of_closes closesBracket_of_opensBracket ends.1, ends.2]
    exact iff_of_false (Option.some_ne_none inner).symm (by omega)
  · rename_i goesOn
    rw [← natCast_clampedStep closesBracket_of_opensBracket goesOn, Option.some_inj, eq_comm,
      Int.natCast_inj]

theorem depthAfter?_eq_some_iff {depth final : Nat} {text : List Char} :
    depthAfter? depth text = some final ↔
      ClosesOpen opensBracket closesBracket depth text ∧
        (final : Int) = depth + balance opensBracket closesBracket text := by
  induction text generalizing depth with
  | nil =>
      rw [depthAfter?, Option.some_inj, closesOpen_nil, balance_nil]
      omega
  | cons character rest induction =>
      rw [depthAfter?_cons, Option.bind_eq_some_iff, closesOpen_cons,
        balance_cons character rest, ← Int.add_assoc]
      constructor
      · rintro ⟨inner, step, closes⟩
        rw [← depthStep?_eq_some_iff.mp step]
        exact ⟨⟨Int.natCast_nonneg depth, (induction.mp closes).1⟩, (induction.mp closes).2⟩
      · rintro ⟨⟨_, inside⟩, isFinal⟩
        have step := Int.toNat_of_nonneg inside.nonneg
        refine ⟨_, depthStep?_eq_some_iff.mpr step, induction.mpr ?_⟩
        rw [step]
        exact ⟨inside, isFinal⟩

theorem isBalanced_iff {text : List Char} :
    IsBalanced text ↔ ClosesOpen opensBracket closesBracket 0 text ∧
      balance opensBracket closesBracket text = 0 := by
  rw [IsBalanced, depthAfter?_eq_some_iff]
  simp only [Int.natCast_zero, Int.zero_add, eq_comm]

/-! ## Bars -/

def outerBars (text : List Char) : Nat :=
  (List.range text.length).countP fun position =>
    text[position]? == some '|' &&
      balance opensBracket closesBracket (text.take position) == 0

example : outerBars "a|b<c|(d)|>|e".toList = 2 := by decide

theorem outerBars_append {first : List Char}
    (closed : balance opensBracket closesBracket first = 0) (second : List Char) :
    outerBars (first ++ second) = outerBars first + outerBars second := by
  rw [outerBars, List.length_append, List.range_add, List.countP_append, List.countP_map]
  congr 1
  · refine List.countP_congr fun position inFirst => ?_
    rw [List.mem_range] at inFirst
    rw [List.getElem?_append_left inFirst, List.take_append_of_le_length inFirst.le]
  · refine List.countP_congr fun position _ => ?_
    have same : (first ++ second)[first.length + position]? = second[position]? := by
      rw [List.getElem?_append_right (Nat.le_add_right _ _), Nat.add_sub_cancel_left]
    rw [Function.comp_apply, same, List.take_length_add_append, balance_append, closed,
      Int.zero_add]

theorem outerBars_eq_zero_iff {text : List Char} :
    outerBars text = 0 ↔ ∀ before after, text = before ++ '|' :: after →
      balance opensBracket closesBracket before ≠ 0 := by
  rw [outerBars, List.countP_eq_zero]
  constructor
  · rintro none before after rfl closed
    refine none before.length (by simp) ?_
    simp [closed]
  · intro enclosed position inText isOuter
    rw [List.mem_range] at inText
    simp only [List.getElem?_eq_getElem inText, Bool.and_eq_true, beq_iff_eq,
      Option.some_inj] at isOuter
    refine enclosed (text.take position) (text.drop (position + 1)) ?_ isOuter.2
    rw [← isOuter.1, ← List.drop_eq_getElem_cons inText, List.take_append_drop]

theorem barsEnclosed_iff {text : List Char} (balanced : IsBalanced text) :
    BarsEnclosed 0 text ↔ outerBars text = 0 := by
  rw [outerBars_eq_zero_iff]
  refine forall₂_congr fun before after => forall_congr' fun parts => not_congr ?_
  have inside : ClosesOpen opensBracket closesBracket 0 before :=
    (isBalanced_iff.mp balanced).1.of_isPrefix ⟨'|' :: after, parts.symm⟩
  rw [← IsBalanced, isBalanced_iff]
  exact and_iff_right inside

theorem length_of_isCut {text : List Char} {pieces : List (List Char)}
    (cut : IsCut text pieces) : pieces.length = outerBars text + 1 := by
  rcases cut with ⟨nonempty, rfl, balanced, enclosed⟩
  induction pieces with
  | nil => contradiction
  | cons piece pieces induction =>
      rw [List.forall_mem_cons] at balanced enclosed
      have closed := (isBalanced_iff.mp balanced.1).2
      have noBar := (barsEnclosed_iff balanced.1).mp enclosed.1
      cases pieces with
      | nil => rw [List.intercalate_singleton, noBar, List.length_singleton]
      | cons next others =>
          have oneBar : outerBars ['|'] = 1 := by decide
          rw [List.intercalate_cons_cons, outerBars_append (by rw [balance_append, closed]; rfl),
            outerBars_append closed, noBar, oneBar, List.length_cons,
            induction (List.cons_ne_nil _ _) balanced.2 enclosed.2]
          omega

/-! ## Pieces -/

structure IsDecomposition (text : List Char) (pieces : List (List Char)) : Prop where
  joined : ['|'].intercalate pieces = text
  length_eq : pieces.length = outerBars text + 1
  closesOpen : ∀ piece ∈ pieces, ClosesOpen opensBracket closesBracket 0 piece
  closed : ∀ piece ∈ pieces, balance opensBracket closesBracket piece = 0
  enclosed : ∀ piece ∈ pieces, outerBars piece = 0

theorem isDecomposition_iff_isCut {text : List Char} {pieces : List (List Char)} :
    IsDecomposition text pieces ↔ IsCut text pieces := by
  constructor
  · intro decomposition
    have balanced : ∀ piece ∈ pieces, IsBalanced piece := fun piece member =>
      isBalanced_iff.mpr
        ⟨decomposition.closesOpen piece member, decomposition.closed piece member⟩
    refine ⟨?_, decomposition.joined, balanced, fun piece member =>
      (barsEnclosed_iff (balanced piece member)).mpr (decomposition.enclosed piece member)⟩
    rintro rfl
    cases decomposition.length_eq
  · intro cut
    exact ⟨cut.joined, length_of_isCut cut,
      fun piece member => (isBalanced_iff.mp (cut.balanced piece member)).1,
      fun piece member => (isBalanced_iff.mp (cut.balanced piece member)).2,
      fun piece member =>
        (barsEnclosed_iff (cut.balanced piece member)).mp (cut.enclosed piece member)⟩

/-- A text has no pieces exactly if it closes a bracket that is not open or leaves one
open. Else its pieces give the text when they are joined by bars, there is one more of
them than bars outside all brackets, each of them closes the brackets that it opens and
no others, and none has a bar outside its own brackets; no other texts are like this.
The pieces of a text, a bar and another text are those of the two. -/
theorem pieces?_isDecomposition (text : List Char) :
    (pieces? text = none ↔
        (∃ before, before <+: text ∧ balance opensBracket closesBracket before < 0) ∨
          balance opensBracket closesBracket text ≠ 0) ∧
      (∀ pieces, pieces? text = some pieces ↔ IsDecomposition text pieces) ∧
      ∀ pieces rest, pieces? text = some pieces →
        pieces? (text ++ '|' :: rest) = (pieces? rest).map (pieces ++ ·) := by
  refine ⟨?_, ?_, ?_⟩
  · rw [← Option.not_isSome_iff_eq_none, isSome_pieces?_iff, isBalanced_iff, not_and_or]
    refine or_congr ?_ Iff.rfl
    simp only [ClosesOpen, Int.zero_add, not_forall, Int.not_le, exists_prop]
  · intro pieces
    rw [isDecomposition_iff_isCut]
    exact pieces?_eq_some_iff
  · intro pieces rest cut
    exact pieces?_append_bar (pieces?_eq_some_iff.mp cut) rest

theorem pieces?_isDecomposition_generic :
    let text := "|(é)||a<b|c>".toList
    let pieces := ["".toList, "(é)".toList, "".toList, "a<b|c>".toList]
    pieces? text = some pieces ∧ outerBars text = 3 ∧
      pieces? (text ++ "|d>|<".toList) = none ∧
      pieces? (text ++ "|x|y".toList) = some (pieces ++ ["x".toList, "y".toList]) := by
  intro text pieces
  rcases pieces?_isDecomposition text with ⟨_, decomposed, appended⟩
  have cut : pieces? text = some pieces := by decide +kernel
  have bars : pieces.length = outerBars text + 1 := ((decomposed pieces).mp cut).length_eq
  exact ⟨cut, (Nat.succ.inj bars).symm, appended pieces "d>|<".toList cut,
    appended pieces "x|y".toList cut⟩

end ParamTypes.TypeExpr
