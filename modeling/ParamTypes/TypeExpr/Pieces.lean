/-!
Cutting a type expression at the bars that stand outside all brackets.

Only balanced texts are cut. The pieces, joined by bars again, give back the
text (`intercalate_of_pieces?`).
-/

namespace ParamTypes.TypeExpr

/-! ## Brackets -/

def opensBracket (character : Char) : Bool :=
  character == '<' || character == '('

def closesBracket (character : Char) : Bool :=
  character == '>' || character == ')'

/-! ## Pieces -/

def extendFirst (character : Char) : List (List Char) → List (List Char)
  | [] => [[character]]
  | first :: others => (character :: first) :: others

/-- The pieces of a text that stands inside `depth` open brackets, if it closes
these and all of its own. The two kinds of brackets are not told apart. -/
def piecesAt? : (depth : Nat) → (text : List Char) → Option (List (List Char))
  | depth, [] => if depth == 0 then some [[]] else none
  | depth, character :: rest =>
      if opensBracket character then
        (piecesAt? (depth + 1) rest).map (extendFirst character)
      else if closesBracket character then
        if depth == 0 then none
        else (piecesAt? (depth - 1) rest).map (extendFirst character)
      else if character == '|' && depth == 0 then
        (piecesAt? 0 rest).map ([] :: ·)
      else
        (piecesAt? depth rest).map (extendFirst character)

/-- The texts between the bars outside all brackets, if the brackets are
balanced. -/
def pieces? (text : List Char) : Option (List (List Char)) :=
  piecesAt? 0 text

example : pieces? "a<b|c>|(d)".toList = some ["a<b|c>".toList, "(d)".toList] := by
  decide

example : pieces? "a)(".toList = none := by decide

/-! ## The text of the pieces -/

theorem intercalate_extendFirst (character : Char) {pieces : List (List Char)}
    (nonempty : pieces ≠ []) :
    ['|'].intercalate (extendFirst character pieces) =
      character :: ['|'].intercalate pieces := by
  rcases pieces with _ | ⟨first, _ | ⟨second, others⟩⟩
  · contradiction
  · simp [extendFirst, List.intercalate]
  · simp [extendFirst, List.intercalate]

theorem intercalate_nil_cons {pieces : List (List Char)} (nonempty : pieces ≠ []) :
    ['|'].intercalate ([] :: pieces) = '|' :: ['|'].intercalate pieces := by
  rcases pieces with _ | ⟨first, others⟩
  · contradiction
  · simp [List.intercalate]

theorem intercalate_of_piecesAt? {depth : Nat} {text : List Char}
    {pieces : List (List Char)} (cut : piecesAt? depth text = some pieces) :
    pieces ≠ [] ∧ ['|'].intercalate pieces = text := by
  induction text generalizing depth pieces with
  | nil =>
      rw [piecesAt?] at cut
      split at cut
      · obtain rfl := Option.some.inj cut
        exact ⟨by simp, rfl⟩
      · contradiction
  | cons character rest induction =>
      have extended {inner : Nat} {character : Char}
          (cut : (piecesAt? inner rest).map (extendFirst character) = some pieces) :
          pieces ≠ [] ∧ ['|'].intercalate pieces = character :: rest := by
        obtain ⟨found, isFound, rfl⟩ := Option.map_eq_some_iff.1 cut
        obtain ⟨nonempty, joined⟩ := induction isFound
        refine ⟨by cases found <;> simp [extendFirst], ?_⟩
        rw [intercalate_extendFirst character nonempty, joined]
      rw [piecesAt?] at cut
      split at cut
      · exact extended cut
      · split at cut
        · split at cut
          · contradiction
          · exact extended cut
        · split at cut
          · rename_i bar
            obtain ⟨found, isFound, rfl⟩ := Option.map_eq_some_iff.1 cut
            obtain ⟨nonempty, joined⟩ := induction isFound
            simp only [Bool.and_eq_true, beq_iff_eq] at bar
            exact ⟨by simp, by rw [intercalate_nil_cons nonempty, joined, bar.1]⟩
          · exact extended cut

theorem intercalate_of_pieces? {text : List Char} {pieces : List (List Char)}
    (cut : pieces? text = some pieces) : ['|'].intercalate pieces = text :=
  (intercalate_of_piecesAt? cut).2

/-! ## The size of the pieces -/

/-- The characters of the pieces, and one more for each piece. -/
def extent : (pieces : List (List Char)) → Nat
  | [] => 0
  | piece :: pieces => piece.length + 1 + extent pieces

theorem extent_eq_length_intercalate {pieces : List (List Char)}
    (nonempty : pieces ≠ []) :
    extent pieces = (['|'].intercalate pieces).length + 1 := by
  induction pieces with
  | nil => contradiction
  | cons piece pieces induction =>
      cases pieces with
      | nil => simp [extent, List.intercalate]
      | cons next others =>
          rw [extent, induction (by simp)]
          simp [List.intercalate]
          omega

theorem extent_of_pieces? {text : List Char} {pieces : List (List Char)}
    (cut : pieces? text = some pieces) : extent pieces = text.length + 1 := by
  obtain ⟨nonempty, joined⟩ := intercalate_of_piecesAt? cut
  rw [extent_eq_length_intercalate nonempty, joined]

end ParamTypes.TypeExpr
