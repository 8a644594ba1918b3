import ParamTypes.Proofs.OrderedSet
import ParamTypes.UnionType

/-!
Casts between types of which something is known. Such a cast needs one atom of the
source that may stand for one of the target (`castsTo_iff_exists`), so a union casts
where one of its parts does, and further atoms only help.

The empty type is apart. It casts to every type and every type to it, and with its
first atom it loses casts.
-/

namespace ParamTypes

/-- Whether one atom of a source may stand for one of a target. The universal type
does for every atom, and every atom for it. -/
def Atom.StandsFor (given expected : Atom) : Prop :=
  given = .keyword .any ∨ expected = .keyword .any ∨ given.castsTo expected = true

theorem Atom.StandsFor.refl (atom : Atom) : atom.StandsFor atom :=
  .inr (.inr atom.castsTo_self)

namespace UnionType

@[simp] theorem castsTo_empty (source : UnionType) : source.castsTo ∅ = true := by
  simp [castsTo]

@[simp] theorem empty_castsTo (target : UnionType) : castsTo ∅ target = true := by
  simp [castsTo]

theorem castsTo_of_standsFor {source target : UnionType} {given expected : Atom}
    (isGiven : given ∈ source) (isExpected : expected ∈ target)
    (fits : given.StandsFor expected) : source.castsTo target = true := by
  rcases fits with rfl | rfl | fits
  · simp [castsTo, isGiven]
  · simp [castsTo, isExpected]
  · have found : source.toList.any (fun given => target.toList.any (given.castsTo ·)) :=
      List.any_eq_true.mpr ⟨given, isGiven, List.any_eq_true.mpr ⟨expected, isExpected, fits⟩⟩
    simp only [castsTo, found, Bool.or_true]

theorem castsTo_iff_exists {source target : UnionType} (known : source ≠ ∅)
    (targetKnown : target ≠ ∅) :
    source.castsTo target = true ↔
      ∃ given ∈ source, ∃ expected ∈ target, given.StandsFor expected := by
  constructor
  · intro casts
    rcases OrderedSet.exists_mem_of_ne_empty known with ⟨given, isGiven⟩
    rcases OrderedSet.exists_mem_of_ne_empty targetKnown with ⟨expected, isExpected⟩
    simp only [castsTo, Bool.or_eq_true, OrderedSet.isEmpty_iff, decide_eq_true_eq,
      List.any_eq_true] at casts
    rcases casts with (((isEmpty | isEmpty) | universal) | universal) |
      ⟨atom, isAtom, other, isOther, fits⟩
    · exact absurd isEmpty known
    · exact absurd isEmpty targetKnown
    · exact ⟨_, universal, expected, isExpected, .inl rfl⟩
    · exact ⟨given, isGiven, _, universal, .inr (.inl rfl)⟩
    · exact ⟨atom, isAtom, other, isOther, .inr (.inr fits)⟩
  · rintro ⟨given, isGiven, expected, isExpected, fits⟩
    exact castsTo_of_standsFor isGiven isExpected fits

theorem castsTo_of_mem {source target : UnionType} {atom : Atom} (given : atom ∈ source)
    (expected : atom ∈ target) : source.castsTo target = true :=
  castsTo_of_standsFor given expected (.refl atom)

/-! ## Unions -/

theorem union_ne_empty {first : UnionType} (known : first ≠ ∅) (second : UnionType) :
    first ∪ second ≠ ∅ :=
  OrderedSet.ne_empty_of_subset known fun _ isAtom => OrderedSet.mem_union.mpr (.inl isAtom)

theorem union_castsTo {first second : UnionType} (known : first ≠ ∅) (secondKnown : second ≠ ∅)
    (target : UnionType) :
    (first ∪ second).castsTo target = (first.castsTo target || second.castsTo target) := by
  by_cases unknown : target = ∅
  · simp [unknown]
  · rw [Bool.eq_iff_iff, Bool.or_eq_true, castsTo_iff_exists (union_ne_empty known second) unknown,
      castsTo_iff_exists known unknown, castsTo_iff_exists secondKnown unknown]
    simp only [OrderedSet.mem_union, or_and_right, exists_or]

theorem castsTo_union {first second : UnionType} (known : first ≠ ∅) (secondKnown : second ≠ ∅)
    (source : UnionType) :
    source.castsTo (first ∪ second) = (source.castsTo first || source.castsTo second) := by
  by_cases unknown : source = ∅
  · simp [unknown]
  · rw [Bool.eq_iff_iff, Bool.or_eq_true, castsTo_iff_exists unknown (union_ne_empty known second),
      castsTo_iff_exists unknown known, castsTo_iff_exists unknown secondKnown]
    simp only [OrderedSet.mem_union, or_and_right, exists_or, and_or_left]

example :
    castsTo ∅ (ofKeyword .int) = true ∧
      castsTo (∅ ∪ ofKeyword .string) (ofKeyword .int) = false := by
  decide

/-! ## Further atoms -/

section Widened

variable {narrow wide : UnionType}

theorem castsTo_of_widened_source (known : narrow ≠ ∅)
    (contained : ∀ atom ∈ narrow, atom ∈ wide) {target : UnionType}
    (casts : narrow.castsTo target = true) : wide.castsTo target = true := by
  by_cases unknown : target = ∅
  · rw [unknown, castsTo_empty]
  · rcases (castsTo_iff_exists known unknown).mp casts with
      ⟨given, isGiven, expected, isExpected, fits⟩
    exact castsTo_of_standsFor (contained given isGiven) isExpected fits

theorem castsTo_of_widened_target (known : narrow ≠ ∅)
    (contained : ∀ atom ∈ narrow, atom ∈ wide) {source : UnionType}
    (casts : source.castsTo narrow = true) : source.castsTo wide = true := by
  by_cases unknown : source = ∅
  · rw [unknown, empty_castsTo]
  · rcases (castsTo_iff_exists unknown known).mp casts with
      ⟨given, isGiven, expected, isExpected, fits⟩
    exact castsTo_of_standsFor isGiven (contained expected isExpected) fits

end Widened

end UnionType

end ParamTypes
