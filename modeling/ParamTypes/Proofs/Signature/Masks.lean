import ParamTypes.Signature.Flag

/-!
What the check of masks for common bits decides.

It compares each mask with the collected bits of those in front of it only. That is
enough to know that no two have a common bit (`Mask.areDisjointFrom_iff`), which holds
exactly if writing one mask never changes whether another one is in the word
(`Mask.areDisjoint_iff`).
-/

namespace ParamTypes.Mask

/-! ## Two masks -/

theorem and_eq_zero_comm {first second : UInt32} :
    first &&& second = 0 ↔ second &&& first = 0 := by
  rw [UInt32.and_comm]

theorem or_and_eq_zero_iff {seen mask other : UInt32} :
    (seen ||| mask) &&& other = 0 ↔ seen &&& other = 0 ∧ mask &&& other = 0 := by
  simp only [and_eq_zero_iff_bits]
  rw [← forall_and]
  refine forall_congr' fun position => ?_
  rw [UInt32.toBitVec_or, Fin.getElem_fin, BitVec.getElem_or, Bool.or_eq_true]
  exact or_imp

/-- Masks with a common bit are told apart by clearing one of them in the other. -/
theorem and_eq_zero_iff_independent {mask other : UInt32} :
    other &&& mask = 0 ↔ ∀ (value : Bool) (word : UInt32),
      isIn other (write mask value word) = isIn other word := by
  constructor
  · intro apart value word
    exact isIn_write_other apart value word
  · intro independent
    have cleared := independent false other
    have whole : isIn other other = true := isIn_iff_bits.mpr fun _ inMask => inMask
    rw [whole, isIn_iff_bits] at cleared
    rw [and_eq_zero_iff_bits]
    intro position inOther
    have stays := cleared position inOther
    simp only [write, Bool.false_eq_true, if_false, UInt32.toBitVec_and,
      UInt32.toBitVec_not, Fin.getElem_fin, BitVec.getElem_and, BitVec.getElem_not,
      Bool.and_eq_true, Bool.not_eq_true'] at stays
    exact stays.2

/-! ## Lists of masks -/

theorem areDisjointFrom_cons_iff {seen mask : UInt32} {masks : List UInt32} :
    areDisjointFrom seen (mask :: masks) = true ↔
      mask ≠ 0 ∧ seen &&& mask = 0 ∧ areDisjointFrom (seen ||| mask) masks = true := by
  rw [areDisjointFrom]
  by_cases zero : mask = 0
  · simp [zero]
  · by_cases common : seen &&& mask = 0 <;> simp [zero, common]

/-- The bits that were seen stand for all masks they were collected from. -/
theorem areDisjointFrom_iff {seen : UInt32} {masks : List UInt32} :
    areDisjointFrom seen masks = true ↔
      (∀ mask ∈ masks, mask ≠ 0) ∧ (∀ mask ∈ masks, seen &&& mask = 0) ∧
        masks.Pairwise (fun first second => first &&& second = 0) := by
  induction masks generalizing seen with
  | nil => simp [areDisjointFrom]
  | cons mask masks induction =>
      have collected : (∀ other ∈ masks, (seen ||| mask) &&& other = 0) ↔
          (∀ other ∈ masks, seen &&& other = 0) ∧ ∀ other ∈ masks, mask &&& other = 0 := by
        simp only [or_and_eq_zero_iff, imp_and, forall_and]
      rw [areDisjointFrom_cons_iff, induction, collected, List.forall_mem_cons,
        List.forall_mem_cons, List.pairwise_cons]
      constructor
      · intro ⟨nonzero, unseen, othersNonzero, ⟨othersUnseen, apart⟩, othersApart⟩
        exact ⟨⟨nonzero, othersNonzero⟩, ⟨unseen, othersUnseen⟩, apart, othersApart⟩
      · intro ⟨⟨nonzero, othersNonzero⟩, ⟨unseen, othersUnseen⟩, apart, othersApart⟩
        exact ⟨nonzero, unseen, othersNonzero, ⟨othersUnseen, apart⟩, othersApart⟩

theorem pairwise_apart_iff {masks : List UInt32} :
    masks.Pairwise (fun first second => first &&& second = 0) ↔
      ∀ first second : Fin masks.length, first ≠ second →
        masks[first] &&& masks[second] = 0 := by
  rw [List.pairwise_iff_getElem]
  constructor
  · intro inOrder first second differs
    rcases Nat.lt_or_gt_of_ne (Fin.val_ne_of_ne differs) with before | behind
    · exact inOrder first second first.isLt second.isLt before
    · exact and_eq_zero_comm.mp (inOrder second first second.isLt first.isLt behind)
  · intro apart first second inList otherInList before
    exact apart ⟨first, inList⟩ ⟨second, otherInList⟩ (Fin.ne_of_lt before)

theorem areDisjoint_iff_apart {masks : List UInt32} :
    areDisjoint masks = true ↔
      (∀ mask ∈ masks, mask ≠ 0) ∧ ∀ first second : Fin masks.length, first ≠ second →
        masks[first] &&& masks[second] = 0 := by
  have nothingSeen : ∀ mask ∈ masks, (0 : UInt32) &&& mask = 0 := fun mask _ =>
    UInt32.zero_and
  rw [areDisjoint, areDisjointFrom_iff, pairwise_apart_iff]
  exact and_congr_right fun _ => and_iff_right nothingSeen

/-- The check accepts exactly the lists of masks that have bits and of which no two, at
whatever positions, have a common one. These are the lists in which writing one mask,
whatever the word, never changes whether another one is in it. -/
theorem areDisjoint_iff (masks : List UInt32) :
    (areDisjoint masks = true ↔
      (∀ mask ∈ masks, mask ≠ 0) ∧ ∀ first second : Fin masks.length, first ≠ second →
        masks[first] &&& masks[second] = 0) ∧
    (areDisjoint masks = true ↔
      (∀ mask ∈ masks, mask ≠ 0) ∧ ∀ first second : Fin masks.length, first ≠ second →
        ∀ (value : Bool) (word : UInt32),
          isIn masks[second] (write masks[first] value word) =
            isIn masks[second] word) := by
  refine ⟨areDisjoint_iff_apart, areDisjoint_iff_apart.trans ?_⟩
  refine and_congr_right fun _ => ?_
  refine forall_congr' fun first => forall_congr' fun second => forall_congr' fun _ => ?_
  exact and_eq_zero_comm.trans and_eq_zero_iff_independent

end ParamTypes.Mask
