import ParamTypes.Proofs.Balance
import ParamTypes.Proofs.TypeExpr.Brackets

/-!
The cut of a type expression, said without the reading of it: balanced pieces
whose own bars all stand in brackets, joined by bars. A text is cut into pieces
exactly if they are these (`pieces?_eq_some_iff`).
-/

namespace ParamTypes.TypeExpr

open Text

/-! ## One character -/

theorem closesBracket_of_opensBracket {character : Char} (opens : opensBracket character = true) :
    closesBracket character = false := by
  simp only [opensBracket, Bool.or_eq_true, beq_iff_eq] at opens
  rcases opens with rfl | rfl <;> decide

def depthStep? (depth : Nat) (character : Char) : Option Nat :=
  if opensBracket character then some (depth + 1)
  else if closesBracket character then if depth == 0 then none else some (depth - 1)
  else some depth

theorem depthStep?_eq (depth : Nat) (character : Char) :
    depthStep? depth character =
      if closesBracket character = true ∧ depth = 0 then none
      else some (clampedStep opensBracket closesBracket depth character) := by
  rw [depthStep?, clampedStep]
  split
  · rename_i opens
    rw [closesBracket_of_opensBracket opens]
    rfl
  · split
    · rename_i closes
      simp only [beq_iff_eq, closes, true_and]
    · rename_i closes
      rw [if_neg fun ends => closes ends.1]

theorem eq_of_depthStep? {depth inner : Nat} {character : Char}
    (step : depthStep? depth character = some inner) :
    clampedStep opensBracket closesBracket depth character = inner := by
  rw [depthStep?_eq] at step
  split at step
  · cases step
  · exact Option.some.inj step

theorem depthAfter?_cons (depth : Nat) (character : Char) (rest : List Char) :
    depthAfter? depth (character :: rest) =
      (depthStep? depth character).bind (depthAfter? · rest) := by
  rw [depthAfter?, depthStep?]
  split
  · rfl
  · split
    · split <;> rfl
    · rfl

/-- A bar outside all brackets ends a piece; any other character extends the
piece that it begins. -/
theorem piecesAt?_cons (depth : Nat) (character : Char) (rest : List Char) :
    piecesAt? depth (character :: rest) =
      if character = '|' ∧ depth = 0 then
        (piecesAt? 0 rest).map ([] :: ·)
      else
        (depthStep? depth character).bind fun inner =>
          (piecesAt? inner rest).map (extendFirst character) := by
  by_cases bar : character = '|' ∧ depth = 0
  · rw [if_pos bar, bar.1, bar.2]
    rfl
  · have noBar : (character == '|' && depth == 0) = false := by simpa using bar
    rw [if_neg bar, piecesAt?, depthStep?, noBar]
    split
    · rfl
    · split
      · split <;> rfl
      · rfl

/-! ## Bars in brackets -/

/-- Whether every bar of a text stands in brackets, inside `depth` of which the
text begins. -/
def BarsEnclosed (depth : Nat) (text : List Char) : Prop :=
  ∀ before after, text = before ++ '|' :: after → depthAfter? depth before ≠ some 0

theorem barsEnclosed_of_not_mem {text : List Char} (noBar : '|' ∉ text) (depth : Nat) :
    BarsEnclosed depth text := by
  rintro before after rfl
  exact absurd (List.mem_append_right _ List.mem_cons_self) noBar

theorem barsEnclosed_cons_iff {depth inner : Nat} {character : Char} {rest : List Char}
    (step : depthStep? depth character = some inner) :
    BarsEnclosed depth (character :: rest) ↔
      ¬ (character = '|' ∧ depth = 0) ∧ BarsEnclosed inner rest := by
  have next (text : List Char) :
      depthAfter? depth (character :: text) = depthAfter? inner text := by
    rw [depthAfter?_cons, step, Option.bind_some]
  constructor
  · intro enclosed
    constructor
    · rintro ⟨rfl, rfl⟩
      exact enclosed [] rest rfl rfl
    · rintro before after rfl
      rw [← next]
      exact enclosed (character :: before) after rfl
  · rintro ⟨first, enclosed⟩ before after parts
    cases before with
    | nil =>
        cases parts
        simpa [depthAfter?] using first
    | cons head before =>
        cases parts
        rw [next]
        exact enclosed before after rfl

/-! ## Balanced pieces -/

theorem foldr_extendFirst (text first : List Char) (others : List (List Char)) :
    text.foldr extendFirst (first :: others) = (text ++ first) :: others := by
  induction text with
  | nil => rfl
  | cons character text induction =>
      rw [List.foldr_cons, induction]
      rfl

theorem foldr_extendFirst_nil {text : List Char} (nonempty : text ≠ []) :
    text.foldr extendFirst [] = [text] := by
  rw [← List.dropLast_append_getLast nonempty, List.foldr_append]
  exact foldr_extendFirst _ [_] []

theorem piecesAt?_append {depth final : Nat} {text : List Char}
    (closes : depthAfter? depth text = some final) (enclosed : BarsEnclosed depth text)
    (rest : List Char) :
    piecesAt? depth (text ++ rest) =
      (piecesAt? final rest).map (text.foldr extendFirst ·) := by
  induction text generalizing depth with
  | nil =>
      cases closes
      exact Option.map_id'.symm
  | cons character text induction =>
      rw [depthAfter?_cons] at closes
      rcases Option.bind_eq_some_iff.mp closes with ⟨inner, step, closes⟩
      rcases (barsEnclosed_cons_iff step).mp enclosed with ⟨noBar, enclosed⟩
      rw [List.cons_append, piecesAt?_cons, if_neg noBar, step, Option.bind_some,
        induction closes enclosed, Option.map_map]
      rfl

theorem piecesAt?_append_bar {depth : Nat} {text : List Char}
    (closes : depthAfter? depth text = some 0) (enclosed : BarsEnclosed depth text)
    (rest : List Char) :
    piecesAt? depth (text ++ '|' :: rest) = (piecesAt? 0 rest).map (text :: ·) := by
  rw [piecesAt?_append closes enclosed, piecesAt?_cons, if_pos ⟨rfl, rfl⟩, Option.map_map]
  congr 1
  funext pieces
  exact (foldr_extendFirst text [] pieces).trans (by rw [List.append_nil])

/-- The pieces that a text is cut into at the bars outside all brackets. -/
structure IsCut (text : List Char) (pieces : List (List Char)) : Prop where
  nonempty : pieces ≠ []
  joined : ['|'].intercalate pieces = text
  balanced : ∀ piece ∈ pieces, IsBalanced piece
  enclosed : ∀ piece ∈ pieces, BarsEnclosed 0 piece

theorem pieces?_of_isCut {text : List Char} {pieces : List (List Char)}
    (cut : IsCut text pieces) : pieces? text = some pieces := by
  rcases cut with ⟨nonempty, rfl, balanced, enclosed⟩
  induction pieces with
  | nil => contradiction
  | cons piece pieces induction =>
      rw [List.forall_mem_cons] at balanced enclosed
      cases pieces with
      | nil =>
          have cut := piecesAt?_append balanced.1 enclosed.1 []
          rw [List.append_nil, piecesAt?, beq_self_eq_true, if_pos rfl, Option.map_some,
            foldr_extendFirst, List.append_nil] at cut
          rw [List.intercalate_singleton, pieces?, cut]
      | cons next others =>
          have parts : ['|'].intercalate (piece :: next :: others) =
              piece ++ '|' :: ['|'].intercalate (next :: others) := by
            rw [List.intercalate_cons_cons, List.append_assoc, List.singleton_append]
          have later := induction (by simp) balanced.2 enclosed.2
          rw [pieces?] at later ⊢
          rw [parts, piecesAt?_append_bar balanced.1 enclosed.1, later, Option.map_some]

theorem balanced_of_piecesAt? {depth : Nat} {text : List Char} {pieces : List (List Char)}
    (cut : piecesAt? depth text = some pieces) :
    ∃ first others, pieces = first :: others ∧
      (depthAfter? depth first = some 0 ∧ BarsEnclosed depth first) ∧
      ∀ piece ∈ others, IsBalanced piece ∧ BarsEnclosed 0 piece := by
  induction text generalizing depth pieces with
  | nil =>
      rw [piecesAt?] at cut
      split at cut
      · rename_i outermost
        rw [beq_iff_eq] at outermost
        cases cut
        subst depth
        exact ⟨[], [], rfl, ⟨rfl, barsEnclosed_of_not_mem List.not_mem_nil 0⟩, by simp⟩
      · cases cut
  | cons character rest induction =>
      rw [piecesAt?_cons] at cut
      split at cut
      · rename_i bar
        rcases Option.map_eq_some_iff.mp cut with ⟨later, isLater, rfl⟩
        rcases induction isLater with ⟨first, others, rfl, isFirst, areOthers⟩
        refine ⟨[], first :: others, rfl, ⟨?_, ?_⟩, ?_⟩
        · rw [bar.2]
          rfl
        · exact barsEnclosed_of_not_mem List.not_mem_nil depth
        · exact List.forall_mem_cons.mpr ⟨isFirst, areOthers⟩
      · rename_i noBar
        rcases Option.bind_eq_some_iff.mp cut with ⟨inner, step, isMap⟩
        rcases Option.map_eq_some_iff.mp isMap with ⟨later, isLater, rfl⟩
        rcases induction isLater with ⟨first, others, rfl, isFirst, areOthers⟩
        refine ⟨character :: first, others, rfl, ⟨?_, ?_⟩, areOthers⟩
        · rw [depthAfter?_cons, step, Option.bind_some]
          exact isFirst.1
        · exact (barsEnclosed_cons_iff step).mpr ⟨noBar, isFirst.2⟩

theorem pieces?_eq_some_iff {text : List Char} {pieces : List (List Char)} :
    pieces? text = some pieces ↔ IsCut text pieces := by
  constructor
  · intro cut
    rcases balanced_of_piecesAt? cut with ⟨first, others, rfl, isFirst, areOthers⟩
    have all : ∀ piece ∈ first :: others, IsBalanced piece ∧ BarsEnclosed 0 piece :=
      List.forall_mem_cons.mpr ⟨isFirst, areOthers⟩
    exact ⟨List.cons_ne_nil _ _, intercalate_of_pieces? cut,
      fun piece member => (all piece member).1, fun piece member => (all piece member).2⟩
  · exact pieces?_of_isCut

theorem isCut_nil_iff {pieces : List (List Char)} : IsCut [] pieces ↔ pieces = [[]] := by
  rw [← pieces?_eq_some_iff]
  constructor
  · intro cut
    exact (Option.some.inj cut).symm
  · rintro rfl
    rfl

theorem IsCut.isBalanced {text : List Char} {pieces : List (List Char)}
    (cut : IsCut text pieces) : IsBalanced text := by
  rw [← isSome_pieces?_iff, pieces?_of_isCut cut]
  rfl

theorem exists_isCut {text : List Char} (balanced : IsBalanced text) :
    ∃ pieces, IsCut text pieces := by
  rcases Option.isSome_iff_exists.mp (isSome_pieces?_iff.mpr balanced) with ⟨pieces, cut⟩
  exact ⟨pieces, pieces?_eq_some_iff.mp cut⟩

theorem isCut_of_barsEnclosed {text : List Char} (balanced : IsBalanced text)
    (enclosed : BarsEnclosed 0 text) : IsCut text [text] where
  nonempty := List.cons_ne_nil _ _
  joined := List.intercalate_singleton
  balanced := List.forall_mem_singleton.mpr balanced
  enclosed := List.forall_mem_singleton.mpr enclosed

/-! ## Joined texts -/

theorem IsCut.append_bar {first second : List Char} {pieces others : List (List Char)}
    (firstCut : IsCut first pieces) (secondCut : IsCut second others) :
    IsCut (first ++ '|' :: second) (pieces ++ others) where
  nonempty := List.append_ne_nil_of_left_ne_nil firstCut.nonempty _
  joined := by
    rw [intercalate_append _ firstCut.nonempty secondCut.nonempty, firstCut.joined,
      secondCut.joined, List.append_assoc, List.singleton_append]
  balanced := List.forall_mem_append.mpr ⟨firstCut.balanced, secondCut.balanced⟩
  enclosed := List.forall_mem_append.mpr ⟨firstCut.enclosed, secondCut.enclosed⟩

theorem pieces?_append_bar {first : List Char} {pieces : List (List Char)}
    (cut : IsCut first pieces) (second : List Char) :
    pieces? (first ++ '|' :: second) = (pieces? second).map (pieces ++ ·) := by
  cases rest : pieces? second with
  | some others => exact pieces?_of_isCut (cut.append_bar (pieces?_eq_some_iff.mp rest))
  | none =>
      have unbalanced : ¬ IsBalanced second := by
        rw [← isSome_pieces?_iff, rest]
        exact Bool.false_ne_true
      have whole : depthAfter? 0 (first ++ '|' :: second) = depthAfter? 0 second := by
        rw [depthAfter?_append, cut.isBalanced]
        rfl
      rw [Option.map_none, ← Option.not_isSome_iff_eq_none, isSome_pieces?_iff, IsBalanced,
        whole]
      exact unbalanced

/-! ## Texts in brackets -/

theorem depthAfter?_add {depth final : Nat} {text : List Char}
    (closes : depthAfter? depth text = some final) (more : Nat) :
    depthAfter? (depth + more) text = some (final + more) := by
  induction text generalizing depth with
  | nil =>
      cases closes
      rfl
  | cons character text induction =>
      rw [depthAfter?_cons] at closes ⊢
      rcases Option.bind_eq_some_iff.mp closes with ⟨inner, step, closes⟩
      have deeper : depthStep? (depth + more) character = some (inner + more) := by
        simp only [depthStep?] at step ⊢
        grind
      rw [deeper, Option.bind_some, induction closes]

theorem barsEnclosed_succ {depth final : Nat} {text : List Char}
    (closes : depthAfter? depth text = some final) : BarsEnclosed (depth + 1) text := by
  intro before after parts outside
  rw [parts, depthAfter?_append] at closes
  rcases Option.bind_eq_some_iff.mp closes with ⟨middle, reaches, _⟩
  rw [depthAfter?_add reaches 1] at outside
  cases outside

theorem barsEnclosed_append {depth final : Nat} {first second : List Char}
    (closes : depthAfter? depth first = some final) (enclosed : BarsEnclosed depth first)
    (secondEnclosed : BarsEnclosed final second) : BarsEnclosed depth (first ++ second) := by
  induction first generalizing depth with
  | nil =>
      cases closes
      exact secondEnclosed
  | cons character first induction =>
      rw [depthAfter?_cons] at closes
      rcases Option.bind_eq_some_iff.mp closes with ⟨inner, step, closes⟩
      rcases (barsEnclosed_cons_iff step).mp enclosed with ⟨noBar, enclosed⟩
      exact (barsEnclosed_cons_iff step).mpr ⟨noBar, induction closes enclosed⟩

theorem isCut_bracketed {opening closing : Char} (opens : depthStep? 0 opening = some 1)
    (closes : depthStep? 1 closing = some 0) (isBracket : closing ≠ '|') {name inner : List Char}
    (plain : ∀ character ∈ name, isPlain character = true) (noBar : '|' ∉ name)
    (balanced : IsBalanced inner) :
    IsCut (name ++ opening :: (inner ++ [closing])) [name ++ opening :: (inner ++ [closing])] := by
  have named := depthAfter?_of_plain plain 0
  have inside : depthAfter? 1 inner = some 1 := depthAfter?_add balanced 1
  have notBar : ¬ (opening = '|' ∧ 0 = 0) := by
    intro bar
    rw [bar.1] at opens
    cases opens
  apply isCut_of_barsEnclosed
  · rw [IsBalanced, depthAfter?_append, named, Option.bind_some, depthAfter?_cons, opens,
      Option.bind_some, depthAfter?_append, inside, Option.bind_some, depthAfter?_cons, closes]
    rfl
  · apply barsEnclosed_append named (barsEnclosed_of_not_mem noBar 0)
    rw [barsEnclosed_cons_iff opens]
    refine ⟨notBar, barsEnclosed_append inside (barsEnclosed_succ balanced) ?_⟩
    apply barsEnclosed_of_not_mem
    rw [List.mem_singleton]
    exact isBracket.symm

/-! ## Blanks at the ends -/

theorem barsEnclosed_of_isBlank {blanks : List Char}
    (areBlank : ∀ blank ∈ blanks, isBlank blank = true) (depth : Nat) :
    BarsEnclosed depth blanks := by
  apply barsEnclosed_of_not_mem
  intro bar
  exact absurd (areBlank '|' bar) (by decide)

theorem depthAfter?_of_isBlank {blanks : List Char}
    (areBlank : ∀ blank ∈ blanks, isBlank blank = true) (depth : Nat) :
    depthAfter? depth blanks = some depth :=
  depthAfter?_of_plain (fun blank member => isPlain_of_isBlank (areBlank blank member)) depth

variable {text blanks : List Char}

theorem IsCut.blanks_append {first : List Char} {others : List (List Char)}
    (areBlank : ∀ blank ∈ blanks, isBlank blank = true) (cut : IsCut text (first :: others)) :
    IsCut (blanks ++ text) ((blanks ++ first) :: others) := by
  rw [← pieces?_eq_some_iff, pieces?,
    piecesAt?_append (depthAfter?_of_isBlank areBlank 0) (barsEnclosed_of_isBlank areBlank 0),
    ← pieces?, pieces?_of_isCut cut, Option.map_some]
  congr 1
  induction blanks with
  | nil => rfl
  | cons blank blanks induction =>
      rw [List.foldr_cons, induction (List.forall_mem_cons.mp areBlank).2]
      rfl

theorem IsCut.append_blanks {others : List (List Char)} {last : List Char}
    (areBlank : ∀ blank ∈ blanks, isBlank blank = true) (cut : IsCut text (others ++ [last])) :
    IsCut (text ++ blanks) (others ++ [last ++ blanks]) where
  nonempty := by simp
  joined := by
    rw [← cut.joined]
    by_cases alone : others = []
    · rw [alone, List.nil_append, List.nil_append, List.intercalate_singleton,
        List.intercalate_singleton]
    · rw [intercalate_append _ alone (List.cons_ne_nil _ _),
        intercalate_append _ alone (List.cons_ne_nil _ _), List.intercalate_singleton,
        List.intercalate_singleton]
      simp only [List.append_assoc]
  balanced := by
    rcases List.forall_mem_append.mp cut.balanced with ⟨areOthers, isLast⟩
    refine List.forall_mem_append.mpr ⟨areOthers, List.forall_mem_singleton.mpr ?_⟩
    rw [IsBalanced, depthAfter?_append, List.forall_mem_singleton.mp isLast, Option.bind_some]
    exact depthAfter?_of_isBlank areBlank 0
  enclosed := by
    rcases List.forall_mem_append.mp cut.enclosed with ⟨areOthers, isLast⟩
    refine List.forall_mem_append.mpr ⟨areOthers, List.forall_mem_singleton.mpr ?_⟩
    apply barsEnclosed_append
    · exact cut.balanced last (List.mem_append_right _ List.mem_cons_self)
    · exact List.forall_mem_singleton.mp isLast
    · exact barsEnclosed_of_isBlank areBlank 0

/-- Blanks at the two ends of a text are the blanks at the ends of its pieces, so
they do not count if the pieces are trimmed. -/
theorem map_trim_pieces? (text : List Char) :
    (pieces? (trim text)).map (List.map trim) = (pieces? text).map (List.map trim) := by
  cases cut : pieces? (trim text) with
  | none =>
      rw [← Option.not_isSome_iff_eq_none, isSome_pieces?_iff, isBalanced_trim_iff,
        ← isSome_pieces?_iff, Option.not_isSome_iff_eq_none] at cut
      rw [cut]
  | some pieces =>
      rcases exists_trim text with ⟨before, after, parts, blankBefore, blankAfter⟩
      have isCut := pieces?_eq_some_iff.mp cut
      rcases List.exists_cons_of_ne_nil isCut.nonempty with ⟨first, others, rfl⟩
      have started := isCut.blanks_append blankBefore
      rcases List.eq_nil_or_concat ((before ++ first) :: others) with none | ⟨front, last, same⟩
      · cases none
      · rw [List.concat_eq_append] at same
        rw [same] at started
        have whole := started.append_blanks blankAfter
        rw [← parts] at whole
        have sameFirst : trim (before ++ first) = trim first := trim_blanks_append blankBefore first
        have sameLast : trim (last ++ after) = trim last := trim_append_blanks blankAfter last
        have mapped := congrArg (List.map trim) same
        rw [List.map_cons, sameFirst, ← List.map_cons] at mapped
        rw [pieces?_of_isCut whole, Option.map_some, Option.map_some, mapped, List.map_append,
          List.map_append, List.map_singleton, List.map_singleton, sameLast]

end ParamTypes.TypeExpr
