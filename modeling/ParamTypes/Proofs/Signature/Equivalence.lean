import Mathlib.Data.List.Forall2
import ParamTypes.Proofs.UnionType.Equality
import ParamTypes.Signature.ParameterList

/-!
Parameters and parameter lists that are alike but for the order of atoms: what the
executable comparisons of types, parameters and lists decide.
-/

namespace ParamTypes

/-! ## Parameters -/

structure Parameter.Reordered (first second : Parameter) : Prop where
  name_eq : first.name = second.name
  isVariadic_eq : first.isVariadic = second.isVariadic
  type_reordered : first.type.Reordered second.type
  defaultType_reordered : Option.Rel OrderedSet.Reordered first.defaultType second.defaultType

namespace Parameter

theorem sameDefaults_iff {first second : Option UnionType} :
    sameDefaults first second = true ↔ Option.Rel OrderedSet.Reordered first second := by
  cases first with
  | none => cases second <;> simp [sameDefaults]
  | some first =>
      cases second with
      | none => simp [sameDefaults]
      | some second => simp [sameDefaults, OrderedSet.sameMembers_iff_reordered]

theorem isEquivalent_iff {first second : Parameter} :
    first.isEquivalent second = true ↔ first.Reordered second := by
  simp only [isEquivalent, Bool.and_eq_true, beq_iff_eq, OrderedSet.sameMembers_iff_reordered,
    sameDefaults_iff]
  constructor
  · rintro ⟨⟨⟨names, types⟩, markers⟩, defaults⟩
    exact ⟨names, markers, types, defaults⟩
  · rintro ⟨names, markers, types, defaults⟩
    exact ⟨⟨⟨names, types⟩, markers⟩, defaults⟩

end Parameter

/-! ## Parameter lists -/

structure ParameterList.Reordered (first second : ParameterList) : Prop where
  required_eq : first.required = second.required
  optional_eq : first.optional = second.optional
  parameters_reordered : List.Forall₂ Parameter.Reordered first.parameters second.parameters

theorem ParameterList.isEquivalent_iff {first second : ParameterList} :
    first.isEquivalent second = true ↔ first.Reordered second := by
  have positions :
      (∀ pair ∈ first.parameters.zip second.parameters,
        pair.1.isEquivalent pair.2 = true) ↔
      ∀ {left right}, (left, right) ∈ first.parameters.zip second.parameters →
        left.Reordered right := by
    simp only [Parameter.isEquivalent_iff, Prod.forall]
  simp only [isEquivalent, Bool.and_eq_true, beq_iff_eq, List.all_eq_true, positions]
  constructor
  · rintro ⟨⟨⟨lengths, pairs⟩, required⟩, optional⟩
    exact ⟨required, optional, List.forall₂_iff_zip.mpr ⟨lengths, pairs⟩⟩
  · rintro ⟨required, optional, related⟩
    have parts := List.forall₂_iff_zip.mp related
    exact ⟨⟨⟨parts.1, parts.2⟩, required⟩, optional⟩

/-! ## Equality of types -/

namespace UnionType

theorem equivalence_sameMembers :
    Equivalence fun first second : UnionType => first.sameMembers second = true := by
  simp only [OrderedSet.sameMembers_iff_reordered]
  exact ⟨OrderedSet.Reordered.refl, .symm, .trans⟩

/-- Two types are equal exactly if they have the same atoms, wherever the types come
from. No question tells equal types apart: whether they are empty, how large they
are, which atoms they have, whether one atom is all that they have, whether null is
among them, what casts to what, and what becomes of them in a union. Parameters and
parameter lists are equal exactly if nothing but the order of atoms differs. -/
theorem sameMembers_isCongruence :
    (∀ first second : UnionType,
      first.sameMembers second = true ↔ ∀ atom, atom ∈ first ↔ atom ∈ second) ∧
    Equivalence (fun first second : UnionType => first.sameMembers second = true) ∧
    (∀ first second other otherSecond : UnionType,
      first.sameMembers other = true → second.sameMembers otherSecond = true →
        first.isEmpty = other.isEmpty ∧
          first.size = other.size ∧
          (∀ atom, decide (atom ∈ first) = decide (atom ∈ other)) ∧
          (∀ atom, first.isExactly atom = other.isExactly atom) ∧
          first.isNullable = other.isNullable ∧
          first.castsTo second = other.castsTo otherSecond ∧
          (first ∪ second).sameMembers (other ∪ otherSecond) = true) ∧
    (∀ first second : Parameter, first.isEquivalent second = true ↔ first.Reordered second) ∧
    ∀ first second : ParameterList,
      first.isEquivalent second = true ↔ first.Reordered second := by
  refine ⟨fun _ _ => OrderedSet.sameMembers_iff, equivalence_sameMembers, ?_,
    fun _ _ => Parameter.isEquivalent_iff, fun _ _ => ParameterList.isEquivalent_iff⟩
  intro first second other otherSecond same secondSame
  have reordered := OrderedSet.sameMembers_iff_reordered.mp same
  have secondReordered := OrderedSet.sameMembers_iff_reordered.mp secondSame
  exact ⟨reordered.isEmpty_eq, reordered.size_eq, reordered.mem_eq, reordered.isExactly_eq,
    reordered.isNullable_eq, reordered.castsTo_eq secondReordered,
    OrderedSet.sameMembers_iff_reordered.mpr (reordered.union secondReordered)⟩

theorem sameMembers_isCongruence_rotated :
    let first : UnionType := .ofList [.keyword .int, .keyword .null, .named "A"]
    let other : UnionType := .ofList [.named "A", .keyword .int, .keyword .null]
    let second : UnionType := .ofList [.keyword .float, .keyword .null]
    let otherSecond : UnionType := .ofList [.keyword .null, .keyword .float]
    let list : ParameterList := .ofList [⟨"x", ∅, false, none⟩, ⟨"y", first, true, some second⟩]
    let otherList : ParameterList :=
      .ofList [⟨"x", ∅, false, none⟩, ⟨"y", other, true, some otherSecond⟩]
    (first.sameMembers other = true ∧ first.text ≠ other.text) ∧
      (second.sameMembers otherSecond = true ∧ second.text ≠ otherSecond.text) ∧
      first.castsTo second = other.castsTo otherSecond ∧
      (first ∪ second).sameMembers (other ∪ otherSecond) = true ∧
      list.isEquivalent otherList = true ∧ list.Reordered otherList := by
  intro first other second otherSecond list otherList
  have same : first.sameMembers other = true := by decide
  have secondSame : second.sameMembers otherSecond = true := by decide
  have listsSame : list.isEquivalent otherList = true := by decide
  rcases sameMembers_isCongruence with ⟨_, _, respected, _, lists⟩
  rcases respected first second other otherSecond same secondSame with
    ⟨_, _, _, _, _, casts, unions⟩
  exact ⟨⟨same, by decide⟩, ⟨secondSame, by decide⟩, casts, unions, listsSame,
    (lists list otherList).mp listsSame⟩

end UnionType

end ParamTypes
