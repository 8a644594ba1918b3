import Mathlib.Data.List.Forall2

/-!
Values that may be missing, and lists, whose members correspond under a relation: what
searches and maps make of them corresponds again.
-/

namespace ParamTypes

variable {related : α → β → Prop} {others : γ → δ → Prop}

/-! ## Values that may be missing -/

theorem rel_map {change : α → γ} {exchange : β → δ} {first : Option α} {second : Option β}
    (relates : ∀ left right, related left right → others (change left) (exchange right))
    (both : Option.Rel related first second) :
    Option.Rel others (first.map change) (second.map exchange) := by
  cases both with
  | some both => exact .some (relates _ _ both)
  | none => exact .none

theorem rel_or {first firstElse : Option α} {second secondElse : Option β}
    (both : Option.Rel related first second)
    (bothElse : Option.Rel related firstElse secondElse) :
    Option.Rel related (first.or firstElse) (second.or secondElse) := by
  cases both with
  | some both => exact .some both
  | none => exact bothElse

theorem rel_filter {keep : α → Bool} {keepOther : β → Bool} {first : Option α}
    {second : Option β}
    (alike : ∀ left right, related left right → keep left = keepOther right)
    (both : Option.Rel related first second) :
    Option.Rel related (first.filter keep) (second.filter keepOther) := by
  cases both with
  | none => exact .none
  | @some left right both =>
      rw [Option.filter_some, Option.filter_some, alike left right both]
      split
      · exact .some both
      · exact .none

/-! ## Lists -/

variable {first : List α} {second : List β}

theorem rel_getElem? (both : List.Forall₂ related first second) (position : Nat) :
    Option.Rel related first[position]? second[position]? := by
  induction both generalizing position with
  | nil => exact .none
  | cons both _ induction =>
      cases position with
      | zero => exact .some both
      | succ position => exact induction position

theorem rel_find? {accepts : α → Bool} {acceptsOther : β → Bool}
    (alike : ∀ left right, related left right → accepts left = acceptsOther right)
    (both : List.Forall₂ related first second) :
    Option.Rel related (first.find? accepts) (second.find? acceptsOther) := by
  induction both with
  | nil => exact .none
  | @cons left right _ _ both _ induction =>
      rw [List.find?_cons, List.find?_cons, alike left right both]
      split
      · exact .some both
      · exact induction

theorem rel_countP {accepts : α → Bool} {acceptsOther : β → Bool}
    (alike : ∀ left right, related left right → accepts left = acceptsOther right)
    (both : List.Forall₂ related first second) :
    first.countP accepts = second.countP acceptsOther := by
  induction both with
  | nil => rfl
  | cons both _ induction =>
      rw [List.countP_cons, List.countP_cons, alike _ _ both, induction]

theorem forall₂_mapIdx {change : Nat → α → γ} {exchange : Nat → β → δ}
    (relates : ∀ position left right, related left right →
      others (change position left) (exchange position right))
    (both : List.Forall₂ related first second) :
    List.Forall₂ others (first.mapIdx change) (second.mapIdx exchange) := by
  induction both generalizing change exchange with
  | nil => exact .nil
  | cons both _ induction =>
      rw [List.mapIdx_cons, List.mapIdx_cons]
      exact .cons (relates 0 _ _ both) (induction fun position => relates (position + 1))

end ParamTypes
