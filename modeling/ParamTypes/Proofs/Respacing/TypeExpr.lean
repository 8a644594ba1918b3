import ParamTypes.Proofs.Related
import ParamTypes.Proofs.Respacing.Basic
import ParamTypes.Proofs.TypeExpr.Grammar

/-!
Type expressions in other runs of blanks.

A blank neither opens nor closes a bracket, and no name holds one. So expressions that
differ in their runs of blanks are cut alike, and name the same atoms or fail alike.
-/

namespace ParamTypes

open Text

namespace TypeExpr

/-! ## Pieces -/

theorem respaced_foldr_extendFirst {first second : List Char} (respaced : Respaced first second)
    {pieces others : List (List Char)} (alike : List.Forall₂ Respaced pieces others) :
    List.Forall₂ Respaced (first.foldr extendFirst pieces) (second.foldr extendFirst others) := by
  cases alike with
  | nil =>
      by_cases nonempty : first = []
      · rw [respaced.eq_nil_iff.mp nonempty, nonempty]
        exact .nil
      · rw [foldr_extendFirst_nil nonempty,
          foldr_extendFirst_nil (mt respaced.eq_nil_iff.mpr nonempty)]
        exact .cons respaced .nil
  | cons head tail =>
      rw [foldr_extendFirst, foldr_extendFirst]
      exact .cons (respaced.append head) tail

theorem respaced_piecesAt? {first second : List Char} (respaced : Respaced first second)
    (depth : Nat) :
    Option.Rel (List.Forall₂ Respaced) (piecesAt? depth first) (piecesAt? depth second) := by
  induction respaced generalizing depth with
  | nil =>
      rw [piecesAt?]
      split
      · exact .some (.cons .nil .nil)
      · exact .none
  | keep character rest induction =>
      rw [piecesAt?_cons, piecesAt?_cons]
      split
      · exact rel_map (fun _ _ alike => .cons .nil alike) (induction 0)
      · cases depthStep? depth character with
        | none => exact .none
        | some inner =>
            have extended {pieces others : List (List Char)}
                (alike : List.Forall₂ Respaced pieces others) :=
              respaced_foldr_extendFirst (.refl [character]) alike
            exact rel_map (fun _ _ => extended) (induction inner)
  | exchange nonempty areBlank othersNonempty othersAreBlank rest induction =>
      have exchanged := Respaced.of_blanks nonempty areBlank othersNonempty othersAreBlank
      rw [piecesAt?_append (depthAfter?_of_isBlank areBlank depth)
          (barsEnclosed_of_isBlank areBlank depth),
        piecesAt?_append (depthAfter?_of_isBlank othersAreBlank depth)
          (barsEnclosed_of_isBlank othersAreBlank depth)]
      refine rel_map (fun _ _ alike => ?_) (induction depth)
      exact respaced_foldr_extendFirst exchanged alike

theorem respaced_pieces? {first second : List Char} (respaced : Respaced first second) :
    Option.Rel (List.Forall₂ Respaced) (pieces? first) (pieces? second) :=
  respaced_piecesAt? respaced 0

/-! ## Names -/

theorem nameAtom_of_not_exists {name : List Char} (unnamed : ¬ ∃ atom, nameAtom name = .ok atom) :
    nameAtom name = .error .invalidName := by
  unfold nameAtom at unnamed ⊢
  split
  · rename_i word isWord
    rw [isWord] at unnamed
    exact absurd ⟨_, rfl⟩ unnamed
  · rename_i noWord
    split
    · rename_i isName
      rw [noWord] at unnamed
      exact absurd ⟨_, if_pos isName⟩ unnamed
    · rfl

theorem nameAtom_congr {first second : List Char} (respaced : Respaced first second) :
    nameAtom first = nameAtom second := by
  have noBlanks (name : List Char) (named : ∃ atom, nameAtom name = .ok atom) :
      ∀ character ∈ name, isBlank character = false := by
    rcases named with ⟨atom, isAtom⟩
    intro character member
    exact isBlank_of_isNamePart
      ((nameAtom_eq_ok_iff.mp isAtom).isNamePart_of_mem character member)
  rcases respaced.eq_or_not noBlanks with same | ⟨unnamed, otherUnnamed⟩
  · rw [same]
  · rw [nameAtom_of_not_exists unnamed, nameAtom_of_not_exists otherUnnamed]

theorem genericBase_nameAtom_congr {first second : List Char} (respaced : Respaced first second) :
    (genericBase first >>= nameAtom) = (genericBase second >>= nameAtom) := by
  have opened : '<' ∈ first ↔ '<' ∈ second := respaced.mem_iff (by decide)
  have closed : first.getLast? = some '>' ↔ second.getLast? = some '>' :=
    respaced.getLast?_eq_iff (by decide)
  have front : Respaced (trimEnd (first.takeWhile (· ≠ '<')))
      (trimEnd (second.takeWhile (· ≠ '<'))) :=
    (respaced.takeWhile (Respaced.treatsAlike_ne (by decide))).trimEnd
  have onBase (name : List Char) : (Except.ok name >>= nameAtom) = nameAtom name := rfl
  by_cases noArguments : '<' ∉ first
  · rw [genericBase, if_pos noArguments, genericBase, if_pos (mt opened.mpr noArguments),
      onBase, onBase]
    exact nameAtom_congr respaced
  · have otherArguments := mt (mt opened.mp) noArguments
    by_cases ends : first.getLast? = some '>'
    · rw [genericBase, if_neg noArguments, if_pos ends, genericBase, if_neg otherArguments,
        if_pos (closed.mp ends), onBase, onBase]
      exact nameAtom_congr front
    · rw [genericBase, if_neg noArguments, if_neg ends, genericBase, if_neg otherArguments,
        if_neg (mt closed.mpr ends)]

/-! ## Members -/

theorem pieceAtoms_congr {pieces others : List (List Char)}
    (alike : List.Forall₂ (fun piece other => memberAtoms (trim piece) = memberAtoms (trim other))
      pieces others) :
    pieceAtoms pieces = pieceAtoms others := by
  induction alike with
  | nil => rfl
  | cons head tail induction => rw [pieceAtoms, pieceAtoms, head, induction]

theorem respaced_grouped? {first second : List Char} (respaced : Respaced first second) :
    Respaced.Both (grouped? first) (grouped? second) := by
  by_cases begins : first.head? = some '('
  · rcases List.head?_eq_some_iff.mp begins with ⟨rest, rfl⟩
    rcases respaced.exists_cons (by decide) with ⟨other, rfl, later⟩
    exact later.stripEnd? fun _ => eq_false_of_mem (by decide)
  · have otherBegins := mt (respaced.head?_eq_iff (by decide)).mpr begins
    rw [grouped?_eq_none_of_head begins, grouped?_eq_none_of_head otherBegins]
    exact .none

theorem memberAtoms_congr {first second : List Char} (respaced : Respaced first second) :
    memberAtoms first = memberAtoms second := by
  induction size : first.length using Nat.strongRecOn generalizing first second with
  | ind length induction =>
      by_cases nonempty : first = []
      · rw [respaced.eq_nil_iff.mp nonempty, nonempty]
      have otherNonempty := mt respaced.eq_nil_iff.mpr nonempty
      by_cases nullable : first.head? = some '?'
      · rcases List.head?_eq_some_iff.mp nullable with ⟨operand, rfl⟩
        rcases respaced.exists_cons (by decide) with ⟨other, rfl, later⟩
        rw [memberAtoms, memberAtoms,
          induction _ (size ▸ length_trim_lt_cons '?' operand) later.trim rfl]
      have otherNullable := mt (respaced.head?_eq_iff (by decide)).mpr nullable
      rw [memberAtoms_of_head nonempty nullable, memberAtoms_of_head otherNonempty otherNullable,
        genericBase_nameAtom_congr respaced]
      have visible (mark : Char) : mark ∈ ['[', ']'] → isBlank mark = false :=
        eq_false_of_mem (by decide)
      have arrays := respaced.stripEnd? visible
      have groups := respaced_grouped? respaced
      generalize stripEnd? ['[', ']'] first = array at arrays ⊢
      generalize stripEnd? ['[', ']'] second = otherArray at arrays ⊢
      generalize isGroup : grouped? first = group at groups ⊢
      generalize grouped? second = otherGroup at groups ⊢
      cases arrays with
      | some _ => rfl
      | none =>
          cases groups with
          | none => rfl
          | @some inner other alike =>
              have cuts := respaced_pieces? alike
              generalize isCut : pieces? inner = pieces at cuts
              generalize isOtherCut : pieces? other = others at cuts
              simp only [isCut, isOtherCut]
              cases cuts with
              | none => rfl
              | @some pieces others alike =>
                  apply pieceAtoms_congr
                  have shorter (piece : List Char) (member : piece ∈ pieces) :
                      (trim piece).length < length :=
                    size ▸ length_trim_lt_of_group isGroup isCut member
                  have both := (List.forall₂_and_left pieces others).mpr ⟨shorter, alike⟩
                  exact both.imp fun _ _ alike => induction _ alike.1 alike.2.trim rfl

theorem atoms_congr {first second : List Char} (respaced : Respaced first second) :
    atoms first = atoms second := by
  have trimmed := respaced.trim
  have nothing : (trim first).isEmpty = (trim second).isEmpty := by
    rw [Bool.eq_iff_iff, List.isEmpty_iff, List.isEmpty_iff]
    exact trimmed.eq_nil_iff
  have cuts := respaced_pieces? trimmed
  rw [atoms, atoms, nothing]
  generalize pieces? (trim first) = pieces at cuts ⊢
  generalize pieces? (trim second) = others at cuts ⊢
  congr 1
  cases cuts with
  | none => rfl
  | some alike => exact pieceAtoms_congr (alike.imp fun _ _ alike => memberAtoms_congr alike.trim)

end TypeExpr

namespace UnionType

/-- The type that is read does not depend on the length and the kind of the runs of
blanks; the report of a fault shows them. -/
theorem toOption_parse_congr {first second : List Char} (respaced : Respaced first second) :
    (parse (String.ofList first)).toOption = (parse (String.ofList second)).toOption := by
  rw [parse, parse, String.toList_ofList, String.toList_ofList, TypeExpr.atoms_congr respaced]
  cases TypeExpr.atoms second with
  | ok found => rfl
  | error fault => rfl

end UnionType

end ParamTypes
