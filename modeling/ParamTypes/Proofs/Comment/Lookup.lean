import ParamTypes.Comment.Basic

/-!
Looking parameters up without the index: the index leads to the first parameter
of a name, so an entry is found by a scan of the parameters
(`Comment.parameterFor?_eq`).
-/

namespace ParamTypes

/-! ## First positions -/

theorem lookup_filter_of_ne [BEq α] [LawfulBEq α] {key dropped : α} (different : key ≠ dropped)
    [DecidablePred fun entry : α × β => entry.1 ≠ dropped] (entries : List (α × β)) :
    (entries.filter (·.1 ≠ dropped)).lookup key = entries.lookup key := by
  induction entries with
  | nil => rfl
  | cons entry entries induction =>
      by_cases same : key = entry.1
      · have kept : entry.1 ≠ dropped := same ▸ different
        rw [List.filter_cons_of_pos (by simpa using kept), List.lookup_cons, List.lookup_cons]
        simp [same]
      · have skipped : (key == entry.1) = false := beq_false_of_ne same
        by_cases kept : entry.1 ≠ dropped
        · rw [List.filter_cons_of_pos (by simpa using kept), List.lookup_cons, List.lookup_cons,
            skipped]
          exact induction
        · rw [List.filter_cons_of_neg (by simpa using kept), List.lookup_cons, skipped]
          exact induction

theorem lookup_firstPositions {name : String} (named : name ≠ "") (offset : Nat)
    (parameters : List DocParameter) :
    (firstPositions offset parameters).lookup name =
      (parameters.findIdx? (·.name = name)).map (· + offset) := by
  induction parameters generalizing offset with
  | nil => rfl
  | cons parameter parameters induction =>
      have shifted :
          ((parameters.findIdx? (·.name = name)).map (· + 1)).map (· + offset) =
            (firstPositions (offset + 1) parameters).lookup name := by
        rw [induction, Option.map_map]
        congr 1
        funext position
        simp only [Function.comp_apply]
        omega
      rw [firstPositions, List.findIdx?_cons]
      by_cases same : parameter.name = name
      · simp [same, named]
      · by_cases unnamed : parameter.name = ""
        · simp only [unnamed, if_true, Ne.symm named, decide_false, Bool.false_eq_true,
            if_false, shifted]
        · have passed : (name == parameter.name) = false := beq_false_of_ne (Ne.symm same)
          simp only [unnamed, same, if_false, decide_false, Bool.false_eq_true,
            List.lookup_cons, passed, shifted, lookup_filter_of_ne (Ne.symm same)]

theorem lookup_firstPositions_unnamed (offset : Nat) (parameters : List DocParameter) :
    (firstPositions offset parameters).lookup "" = none := by
  apply List.lookup_eq_none_iff.mpr
  intro entry member
  have named : entry.1 ≠ "" :=
    (mem_map_fst_firstPositions.mp (List.mem_map_of_mem member)).1
  simpa using named.symm

def givenNames (parameters : List DocParameter) : List String :=
  (parameters.map DocParameter.name).filter (· ≠ "")

theorem mem_givenNames {name : String} {parameters : List DocParameter} :
    name ∈ givenNames parameters ↔
      name ≠ "" ∧ name ∈ parameters.map DocParameter.name := by
  rw [givenNames, List.mem_filter, decide_eq_true_iff, and_comm]

namespace Comment

/-- The position of the first parameter of a name. No name is empty. -/
def firstPosition? (comment : Comment) (name : String) : Option Nat :=
  if name = "" then none else comment.parameters.findIdx? (·.name = name)

theorem lookup_index (comment : Comment) (name : String) :
    comment.index.lookup name = comment.firstPosition? name := by
  rw [comment.index_eq, firstPosition?]
  by_cases unnamed : name = ""
  · rw [unnamed, lookup_firstPositions_unnamed, if_pos rfl]
  · rw [lookup_firstPositions unnamed, if_neg unnamed]
    simp only [Nat.add_zero, Option.map_id']

def firstOfName? (comment : Comment) (name : String) : Option DocParameter :=
  if name = "" then none else comment.parameters.find? (·.name = name)

theorem bind_firstPosition? (comment : Comment) (name : String) :
    (comment.firstPosition? name).bind (comment.parameters[·]?) =
      comment.firstOfName? name := by
  rw [firstPosition?, firstOfName?]
  split
  · rfl
  · rw [List.find?_eq_bind_findIdx?_getElem?]

theorem parameterFor?_eq (comment : Comment) (name : String) (offset : Nat) :
    comment.parameterFor? name offset =
      (comment.firstOfName? name).or (comment.named? offset) := by
  rw [parameterFor?, lookup_index, bind_firstPosition?]

theorem mem_parameters_of_parameterFor? {comment : Comment} {name : String} {offset : Nat}
    {documented : DocParameter} (found : comment.parameterFor? name offset = some documented) :
    documented ∈ comment.parameters ∧ documented.name ≠ "" := by
  rw [parameterFor?_eq, Option.or_eq_some_iff] at found
  rcases found with byName | ⟨_, byPosition⟩
  · rw [firstOfName?] at byName
    split at byName
    · cases byName
    · rename_i named
      have same : documented.name = name := by simpa using List.find?_some byName
      exact ⟨List.mem_of_find?_eq_some byName, same ▸ named⟩
  · rw [named?, Option.filter_eq_some_iff] at byPosition
    exact ⟨List.mem_of_getElem? byPosition.1, by simpa using byPosition.2⟩

end Comment

end ParamTypes
