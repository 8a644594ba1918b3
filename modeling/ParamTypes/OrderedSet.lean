/-!
Finite sets that remember the order in which their members first arrived.

The view of an ordered set is its list of members. Adding members one after
another leaves the first occurrence of each, so a set built from a list is that
list without its later repetitions (`toList_ofList`).
-/

namespace ParamTypes

structure OrderedSet (α : Type u) where
  toList : List α
  nodup : toList.Nodup
deriving DecidableEq

namespace OrderedSet

@[ext] theorem ext {first second : OrderedSet α}
    (same : first.toList = second.toList) : first = second := by
  cases first
  cases second
  simp_all

/-! ## Membership -/

instance : Membership α (OrderedSet α) where
  mem values member := member ∈ values.toList

@[simp] theorem mem_toList {member : α} {values : OrderedSet α} :
    member ∈ values.toList ↔ member ∈ values :=
  Iff.rfl

instance [DecidableEq α] (member : α) (values : OrderedSet α) :
    Decidable (member ∈ values) :=
  inferInstanceAs (Decidable (member ∈ values.toList))

def size (values : OrderedSet α) : Nat :=
  values.toList.length

def isEmpty (values : OrderedSet α) : Bool :=
  values.toList.isEmpty

/-! ## Building -/

def empty : OrderedSet α :=
  ⟨[], List.nodup_nil⟩

instance : EmptyCollection (OrderedSet α) := ⟨empty⟩

instance : Inhabited (OrderedSet α) := ⟨empty⟩

@[simp] theorem toList_empty : (∅ : OrderedSet α).toList = [] := rfl

@[simp] theorem not_mem_empty (member : α) : ¬ member ∈ (∅ : OrderedSet α) :=
  List.not_mem_nil

def singleton (member : α) : OrderedSet α :=
  ⟨[member], by simp⟩

@[simp] theorem toList_singleton (member : α) :
    (singleton member).toList = [member] := rfl

variable [DecidableEq α]

/-- Append a new member; one that is already present keeps its place. -/
def insert (values : OrderedSet α) (member : α) : OrderedSet α :=
  if present : member ∈ values then
    values
  else
    ⟨values.toList ++ [member], by
      refine List.nodup_append.2 ⟨values.nodup, by simp, ?_⟩
      intro old isOld new isNew same
      have isMember : new = member := by simpa using isNew
      exact present (isMember ▸ same ▸ isOld)⟩

theorem toList_insert (values : OrderedSet α) (member : α) :
    (values.insert member).toList =
      if member ∈ values then values.toList else values.toList ++ [member] := by
  unfold insert
  split <;> rfl

@[simp] theorem insert_of_mem {values : OrderedSet α} {member : α}
    (present : member ∈ values) : values.insert member = values := by
  simp [insert, present]

theorem toList_insert_of_not_mem {values : OrderedSet α} {member : α}
    (absent : ¬ member ∈ values) :
    (values.insert member).toList = values.toList ++ [member] := by
  simp [toList_insert, absent]

@[simp] theorem mem_insert {values : OrderedSet α} {member other : α} :
    other ∈ values.insert member ↔ other ∈ values ∨ other = member := by
  rw [← mem_toList, toList_insert]
  split
  · rename_i present
    constructor
    · exact Or.inl
    · rintro (old | rfl)
      · exact old
      · exact present
  · simp

def insertMany (values : OrderedSet α) (members : List α) : OrderedSet α :=
  members.foldl insert values

@[simp] theorem insertMany_nil (values : OrderedSet α) :
    values.insertMany [] = values := rfl

@[simp] theorem insertMany_cons (values : OrderedSet α) (member : α)
    (members : List α) :
    values.insertMany (member :: members) =
      (values.insert member).insertMany members := rfl

theorem insertMany_append (values : OrderedSet α) (first second : List α) :
    values.insertMany (first ++ second) =
      (values.insertMany first).insertMany second :=
  List.foldl_append

@[simp] theorem mem_insertMany {values : OrderedSet α} {members : List α}
    {other : α} :
    other ∈ values.insertMany members ↔ other ∈ values ∨ other ∈ members := by
  induction members generalizing values with
  | nil => simp
  | cons member members induction =>
      simp [induction, or_assoc]

theorem toList_insertMany (values : OrderedSet α) (members : List α) :
    (values.insertMany members).toList =
      values.toList ++ (members.filter (· ∉ values)).eraseDups := by
  induction members generalizing values with
  | nil => simp
  | cons member members induction =>
      rw [insertMany_cons, induction]
      by_cases present : member ∈ values
      · simp [present]
      · rw [toList_insert_of_not_mem present,
          List.filter_cons_of_pos (by simpa using present), List.eraseDups_cons,
          List.filter_filter, List.append_assoc]
        simp [not_or, Bool.and_comm, BEq.beq]

/-- The distinct members of a list, in the order of their first occurrence. -/
def ofList (members : List α) : OrderedSet α :=
  insertMany ∅ members

theorem toList_ofList (members : List α) :
    (ofList members).toList = members.eraseDups := by
  have allNew : members.filter (· ∉ (∅ : OrderedSet α)) = members :=
    List.filter_eq_self.2 (by simp)
  rw [ofList, toList_insertMany, allNew, toList_empty, List.nil_append]

@[simp] theorem mem_ofList {members : List α} {other : α} :
    other ∈ ofList members ↔ other ∈ members := by
  simp [ofList]

example : (ofList ["int", "null", "int"]).toList = ["int", "null"] := rfl

def union (first second : OrderedSet α) : OrderedSet α :=
  first.insertMany second.toList

instance : Union (OrderedSet α) := ⟨union⟩

theorem union_eq_insertMany (first second : OrderedSet α) :
    first ∪ second = first.insertMany second.toList := rfl

@[simp] theorem mem_union {first second : OrderedSet α} {other : α} :
    other ∈ first ∪ second ↔ other ∈ first ∨ other ∈ second := by
  simp [union_eq_insertMany]

/-! ## Equality of members -/

def sameMembers (first second : OrderedSet α) : Bool :=
  first.size == second.size && first.toList.all (· ∈ second)

example :
    sameMembers (ofList ["int", "null"]) (ofList ["null", "int"]) = true := rfl

end OrderedSet

end ParamTypes
