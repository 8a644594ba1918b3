import Mathlib.Data.List.Induction
import Mathlib.Data.List.Perm.Basic
import ParamTypes.OrderedSet

/-!
Ordered sets without members, ordered sets of the same members, first occurrences
in lists, and unions of ordered sets.
-/

namespace ParamTypes.OrderedSet

/-! ## No members -/

theorem toList_eq_nil_iff {values : OrderedSet α} : values.toList = [] ↔ values = ∅ := by
  constructor
  · intro none
    exact ext none
  · rintro rfl
    rfl

@[simp] theorem isEmpty_iff {values : OrderedSet α} :
    values.isEmpty = true ↔ values = ∅ := by
  rw [isEmpty, List.isEmpty_iff, toList_eq_nil_iff]

theorem exists_mem_of_ne_empty {values : OrderedSet α} (some : values ≠ ∅) :
    ∃ member, member ∈ values :=
  List.exists_mem_of_ne_nil values.toList fun none => some (toList_eq_nil_iff.mp none)

theorem ne_empty_of_mem {values : OrderedSet α} {member : α} (isMember : member ∈ values) :
    values ≠ ∅ := by
  rintro rfl
  exact not_mem_empty member isMember

theorem ne_empty_of_subset {first second : OrderedSet α} (some : first ≠ ∅)
    (contained : ∀ member ∈ first, member ∈ second) : second ≠ ∅ := by
  rcases exists_mem_of_ne_empty some with ⟨member, isMember⟩
  exact ne_empty_of_mem (contained member isMember)

/-! ## Order of members -/

def Reordered (first second : OrderedSet α) : Prop :=
  first.toList.Perm second.toList

theorem reordered_iff {first second : OrderedSet α} :
    first.Reordered second ↔ ∀ member, member ∈ first ↔ member ∈ second :=
  List.perm_ext_iff_of_nodup first.nodup second.nodup

namespace Reordered

variable {first second third : OrderedSet α}

theorem refl (values : OrderedSet α) : values.Reordered values :=
  List.Perm.refl values.toList

theorem symm (reordered : first.Reordered second) : second.Reordered first :=
  List.Perm.symm reordered

theorem trans (reordered : first.Reordered second) (again : second.Reordered third) :
    first.Reordered third :=
  List.Perm.trans reordered again

theorem size_eq (reordered : first.Reordered second) : first.size = second.size :=
  List.Perm.length_eq reordered

theorem isEmpty_eq (reordered : first.Reordered second) : first.isEmpty = second.isEmpty :=
  List.Perm.isEmpty_eq reordered

end Reordered

/-! ## First occurrences -/

variable [DecidableEq α]

theorem nodup_eraseDups (members : List α) : members.eraseDups.Nodup :=
  toList_ofList members ▸ (ofList members).nodup

theorem eraseDups_append_singleton (members : List α) (member : α) :
    (members ++ [member]).eraseDups =
      if member ∈ members then members.eraseDups else members.eraseDups ++ [member] := by
  rw [← toList_ofList, ofList, insertMany_append, insertMany_cons, insertMany_nil,
    toList_insert, ← ofList, toList_ofList]
  simp only [mem_ofList]

/-- A filter keeps or drops all occurrences of a member alike, so it may come
before or after the choice of the first ones. -/
theorem eraseDups_filter (keep : α → Bool) (members : List α) :
    (members.filter keep).eraseDups = members.eraseDups.filter keep := by
  induction members using List.reverseRecOn with
  | nil => simp
  | append_singleton members member induction =>
      rw [eraseDups_append_singleton]
      cases kept : keep member with
      | false =>
          have dropped : (members ++ [member]).filter keep = members.filter keep := by
            simp [kept]
          rw [dropped, induction]
          split
          · rfl
          · simp [kept]
      | true =>
          have same : member ∈ members.filter keep ↔ member ∈ members := by
            simp [kept]
          have appended :
              (members ++ [member]).filter keep = members.filter keep ++ [member] := by
            simp [kept]
          rw [appended, eraseDups_append_singleton, induction]
          simp only [same]
          split
          · rfl
          · simp [kept]

theorem eraseDups_of_nodup {members : List α} (nodup : members.Nodup) :
    members.eraseDups = members := by
  induction members with
  | nil => rfl
  | cons member members induction =>
      have parts := List.nodup_cons.mp nodup
      have others : members.filter (fun other => !other == member) = members := by
        apply List.filter_eq_self.mpr
        intro other isOther
        have different : other ≠ member := fun same => parts.1 (same ▸ isOther)
        simpa using different
      rw [List.eraseDups_cons, others, induction parts.2]

@[simp] theorem eraseDups_eraseDups (members : List α) :
    members.eraseDups.eraseDups = members.eraseDups :=
  eraseDups_of_nodup (nodup_eraseDups members)

theorem insertMany_eraseDups (values : OrderedSet α) (members : List α) :
    values.insertMany members.eraseDups = values.insertMany members := by
  apply ext
  rw [toList_insertMany, toList_insertMany, eraseDups_filter, eraseDups_filter,
    eraseDups_eraseDups]

theorem prefix_insertMany (values : OrderedSet α) (members : List α) :
    values.toList <+: (values.insertMany members).toList := by
  rw [toList_insertMany]
  exact List.prefix_append _ _

/-! ## Unions -/

theorem ofList_toList (values : OrderedSet α) : ofList values.toList = values := by
  apply ext
  rw [toList_ofList, eraseDups_of_nodup values.nodup]

theorem eq_ofList_iff {values : OrderedSet α} {members : List α} :
    values = ofList members ↔ values.toList = members.eraseDups := by
  rw [← toList_ofList, OrderedSet.ext_iff]

theorem union_ofList (values : OrderedSet α) (members : List α) :
    values ∪ ofList members = values.insertMany members := by
  rw [union_eq_insertMany, toList_ofList, insertMany_eraseDups]

theorem ofList_append (first second : List α) :
    ofList (first ++ second) = ofList first ∪ ofList second := by
  rw [union_ofList, ofList, ofList, insertMany_append]

theorem ofList_eraseDups (members : List α) : ofList members.eraseDups = ofList members :=
  insertMany_eraseDups ∅ members

/-- First occurrences may be chosen within each part before they are chosen in
the whole. -/
theorem eraseDups_flatMap_eraseDups (part : β → List α) (items : List β) :
    (items.flatMap fun item => (part item).eraseDups).eraseDups =
      (items.flatMap part).eraseDups := by
  have same : ofList (items.flatMap fun item => (part item).eraseDups) =
      ofList (items.flatMap part) := by
    induction items with
    | nil => rfl
    | cons item items induction =>
        rw [List.flatMap_cons, List.flatMap_cons, ofList_append, ofList_append,
          ofList_eraseDups, induction]
  rw [← toList_ofList, ← toList_ofList, same]

theorem toList_union (first second : OrderedSet α) :
    (first ∪ second).toList = first.toList ++ second.toList.filter (· ∉ first) := by
  rw [union_eq_insertMany, toList_insertMany, eraseDups_of_nodup]
  exact second.nodup.filter _

theorem union_of_subset {first second : OrderedSet α}
    (contained : ∀ member ∈ second, member ∈ first) : first ∪ second = first := by
  apply ext
  have noneNew : second.toList.filter (· ∉ first) = [] := by
    apply List.filter_eq_nil_iff.mpr
    intro member isMember
    simpa using contained member isMember
  rw [toList_union, noneNew, List.append_nil]

theorem union_assoc (first second third : OrderedSet α) :
    first ∪ second ∪ third = first ∪ (second ∪ third) := by
  rw [← ofList_toList first, ← ofList_toList second, ← ofList_toList third]
  rw [← ofList_append, ← ofList_append, ← ofList_append, ← ofList_append, List.append_assoc]

/-! ## Equality of members -/

variable {first second : OrderedSet α}

theorem Reordered.union {other otherSecond : OrderedSet α} (reordered : first.Reordered other)
    (secondReordered : second.Reordered otherSecond) :
    (first ∪ second).Reordered (other ∪ otherSecond) := by
  apply reordered_iff.mpr
  intro member
  rw [mem_union, mem_union, reordered_iff.mp reordered member,
    reordered_iff.mp secondReordered member]

/-- Sets of one size of which the first is contained in the second have the same
members. This counts on no member being listed twice. -/
theorem sameMembers_iff_reordered :
    first.sameMembers second = true ↔ first.Reordered second := by
  rw [sameMembers, Bool.and_eq_true, beq_iff_eq, List.all_eq_true]
  constructor
  · rintro ⟨sizes, contained⟩
    have inSecond : first.toList ⊆ second.toList := by
      intro member isMember
      simpa using contained member isMember
    exact (List.subperm_of_subset first.nodup inSecond).perm_of_length_le
      (Nat.le_of_eq sizes.symm)
  · intro reordered
    refine ⟨reordered.size_eq, ?_⟩
    intro member isMember
    simpa using (reordered_iff.mp reordered member).mp isMember

theorem sameMembers_iff :
    first.sameMembers second = true ↔ ∀ member, member ∈ first ↔ member ∈ second := by
  rw [sameMembers_iff_reordered, reordered_iff]

end ParamTypes.OrderedSet
