import ParamTypes.Proofs.OrderedSet
import ParamTypes.UnionType

/-!
Union types of the same atoms. No question that can be asked of a type depends on
the order in which its atoms arrived, its text apart.
-/

namespace ParamTypes

namespace UnionType

theorem isExactly_iff {type : UnionType} {atom : Atom} :
    type.isExactly atom = true ↔ type.toList = [atom] := by
  rw [isExactly, beq_iff_eq]

theorem eq_null_iff {type : UnionType} : type = null ↔ type.toList = [.keyword .null] := by
  constructor
  · rintro rfl
    rfl
  · exact fun alone => OrderedSet.ext alone

theorem isExactly_null_iff {type : UnionType} :
    type.isExactly (.keyword .null) = true ↔ type = null := by
  rw [isExactly_iff, eq_null_iff]

end UnionType

namespace OrderedSet.Reordered

variable {first second source otherSource target otherTarget : UnionType}

theorem isExactly_eq (reordered : first.Reordered second) (atom : Atom) :
    first.isExactly atom = second.isExactly atom := by
  rw [Bool.eq_iff_iff, UnionType.isExactly_iff, UnionType.isExactly_iff]
  constructor
  · intro alone
    exact List.perm_singleton.mp (alone ▸ reordered.symm)
  · intro alone
    exact List.perm_singleton.mp (alone ▸ reordered)

theorem mem_eq (reordered : first.Reordered second) (atom : Atom) :
    decide (atom ∈ first) = decide (atom ∈ second) :=
  decide_eq_decide.mpr (reordered_iff.mp reordered atom)

theorem isNullable_eq (reordered : first.Reordered second) :
    first.isNullable = second.isNullable :=
  reordered.mem_eq (.keyword .null)

theorem castsTo_eq (sources : source.Reordered otherSource)
    (targets : target.Reordered otherTarget) :
    source.castsTo target = otherSource.castsTo otherTarget := by
  have searches : source.toList.any (fun given => target.toList.any (given.castsTo ·)) =
      otherSource.toList.any (fun given => otherTarget.toList.any (given.castsTo ·)) := by
    calc
      _ = source.toList.any (fun given => otherTarget.toList.any (given.castsTo ·)) := by
          congr 1
          funext given
          exact List.Perm.any_eq targets
      _ = _ := List.Perm.any_eq sources
  simp only [UnionType.castsTo, sources.isEmpty_eq, targets.isEmpty_eq, sources.mem_eq,
    targets.mem_eq, searches]

end OrderedSet.Reordered

end ParamTypes
