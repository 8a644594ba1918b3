import ParamTypes.Proofs.Text
import ParamTypes.TypeExpr.Pieces

/-!
The depth of brackets. A text is cut into pieces exactly if its brackets are
balanced, that is, if the depth comes back to zero and never falls below.
-/

namespace ParamTypes.TypeExpr

open Text

/-- The number of open brackets behind a text that stands inside `depth` of
them, unless the text closes more than there are. -/
def depthAfter? : (depth : Nat) → (text : List Char) → Option Nat
  | depth, [] => some depth
  | depth, character :: rest =>
      if opensBracket character then depthAfter? (depth + 1) rest
      else if closesBracket character then
        if depth == 0 then none else depthAfter? (depth - 1) rest
      else depthAfter? depth rest

def IsBalanced (text : List Char) : Prop :=
  depthAfter? 0 text = some 0

instance (text : List Char) : Decidable (IsBalanced text) :=
  inferInstanceAs (Decidable (depthAfter? 0 text = some 0))

example : IsBalanced "a<(b>)|c".toList := by decide

example : ¬ IsBalanced "a)(".toList := by decide

theorem depthAfter?_append (depth : Nat) (first second : List Char) :
    depthAfter? depth (first ++ second) =
      (depthAfter? depth first).bind (depthAfter? · second) := by
  induction first generalizing depth with
  | nil => rfl
  | cons character rest induction =>
      simp only [List.cons_append, depthAfter?]
      split
      · exact induction (depth + 1)
      · split
        · split
          · rfl
          · exact induction (depth - 1)
        · exact induction depth

def isPlain (character : Char) : Bool :=
  !opensBracket character && !closesBracket character

theorem depthAfter?_of_plain {text : List Char}
    (plain : ∀ character ∈ text, isPlain character = true) (depth : Nat) :
    depthAfter? depth text = some depth := by
  induction text with
  | nil => rfl
  | cons character rest induction =>
      have first := plain character List.mem_cons_self
      simp only [isPlain, Bool.and_eq_true, Bool.not_eq_true'] at first
      rw [depthAfter?, first.1, first.2]
      exact induction fun other member => plain other (List.mem_cons_of_mem _ member)

theorem isPlain_of_holds {holds : Char → Bool}
    (none : (['<', '(', '>', ')'].all fun bracket => !holds bracket) = true) {character : Char}
    (member : holds character = true) : isPlain character = true := by
  by_contra notPlain
  have isBracket : character ∈ ['<', '(', '>', ')'] := by
    simp only [isPlain, opensBracket, closesBracket] at notPlain
    simp only [List.mem_cons, List.not_mem_nil, or_false]
    grind
  rw [eq_false_of_mem none isBracket] at member
  cases member

theorem isPlain_of_isBlank {character : Char} (blank : isBlank character = true) :
    isPlain character = true :=
  isPlain_of_holds (by decide) blank

theorem isSome_piecesAt?_iff {depth : Nat} {text : List Char} :
    (piecesAt? depth text).isSome = true ↔ depthAfter? depth text = some 0 := by
  induction text generalizing depth with
  | nil =>
      rw [piecesAt?, depthAfter?]
      cases depth <;> simp
  | cons character rest induction =>
      rw [piecesAt?, depthAfter?]
      split
      · rw [Option.isSome_map, induction]
      · split
        · split
          · simp
          · rw [Option.isSome_map, induction]
        · split
          · rename_i bar
            simp only [Bool.and_eq_true, beq_iff_eq] at bar
            rw [Option.isSome_map, induction, bar.2]
          · rw [Option.isSome_map, induction]

theorem isSome_pieces?_iff {text : List Char} :
    (pieces? text).isSome = true ↔ IsBalanced text :=
  isSome_piecesAt?_iff

theorem isBalanced_trim_iff {text : List Char} : IsBalanced (trim text) ↔ IsBalanced text := by
  rcases exists_trim text with ⟨before, after, parts, blankBefore, blankAfter⟩
  have plainBefore := depthAfter?_of_plain
    (fun blank member => isPlain_of_isBlank (blankBefore blank member)) 0
  have plainAfter := depthAfter?_of_plain
    (fun blank member => isPlain_of_isBlank (blankAfter blank member))
  have same : depthAfter? 0 (before ++ trim text ++ after) = depthAfter? 0 (trim text) := by
    rw [depthAfter?_append, depthAfter?_append, plainBefore, Option.bind_some]
    cases depthAfter? 0 (trim text) with
    | none => rfl
    | some depth => exact plainAfter depth
  rw [IsBalanced, IsBalanced, ← same, ← parts]

end ParamTypes.TypeExpr
