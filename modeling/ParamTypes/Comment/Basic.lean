import ParamTypes.Comment.DocParameter

/-!
Documentation comments: the documented parameters in the order of their tags,
an index of their names, and the documented return type.

The index holds every distinct name with its first position. It is kept up
while parameters are added (`firstPositions_append_of_new`,
`firstPositions_append_of_known`).
-/

namespace ParamTypes

/-! ## First positions -/

/-- The distinct names of parameters, in order of appearance, each with the
position where it appears first. Positions count from `offset`. -/
def firstPositions : (offset : Nat) → List DocParameter → List (String × Nat)
  | _, [] => []
  | offset, parameter :: parameters =>
      let later := firstPositions (offset + 1) parameters
      if parameter.name = "" then
        later
      else
        (parameter.name, offset) :: later.filter (·.1 ≠ parameter.name)

example :
    firstPositions 0 [⟨"a", ∅, false⟩, .placeholder, ⟨"b", ∅, false⟩, ⟨"a", ∅, true⟩] =
      [("a", 0), ("b", 2)] := by
  decide

theorem mem_map_fst_firstPositions {offset : Nat} {parameters : List DocParameter}
    {name : String} :
    name ∈ (firstPositions offset parameters).map Prod.fst ↔
      name ≠ "" ∧ name ∈ parameters.map DocParameter.name := by
  induction parameters generalizing offset with
  | nil => simp [firstPositions]
  | cons parameter parameters induction =>
      have later := @induction (offset + 1)
      by_cases unnamed : parameter.name = ""
      · simp only [firstPositions, unnamed, if_true, List.map_cons, List.mem_cons]
        rw [later]
        constructor
        · rintro ⟨named, member⟩
          exact ⟨named, .inr member⟩
        · rintro ⟨named, isEmpty | member⟩
          · exact absurd isEmpty named
          · exact ⟨named, member⟩
      · by_cases same : name = parameter.name
        · subst same
          simp [firstPositions, unnamed]
        · have kept :
              name ∈ ((firstPositions (offset + 1) parameters).filter
                (·.1 ≠ parameter.name)).map Prod.fst ↔
              name ∈ (firstPositions (offset + 1) parameters).map Prod.fst := by
            simp [same]
          simp only [firstPositions, unnamed, if_false, List.map_cons, List.mem_cons,
            same, false_or]
          rw [kept, later]

theorem firstPositions_append_of_new {offset : Nat} {parameters : List DocParameter}
    {added : DocParameter} (named : added.name ≠ "")
    (new : added.name ∉ parameters.map DocParameter.name) :
    firstPositions offset (parameters ++ [added]) =
      firstPositions offset parameters ++ [(added.name, offset + parameters.length)] := by
  induction parameters generalizing offset with
  | nil => simp [firstPositions, named]
  | cons parameter parameters induction =>
      simp only [List.map_cons, List.mem_cons, not_or] at new
      rw [List.cons_append, firstPositions, induction new.2, firstPositions]
      by_cases unnamed : parameter.name = ""
      · simp [unnamed]
        omega
      · simp [unnamed, new.1]
        omega

theorem firstPositions_append_of_known {parameters : List DocParameter}
    {added : DocParameter}
    (known : added.name = "" ∨ added.name ∈ parameters.map DocParameter.name)
    (offset : Nat) :
    firstPositions offset (parameters ++ [added]) = firstPositions offset parameters := by
  induction parameters generalizing offset with
  | nil =>
      have unnamed : added.name = "" := by simpa using known
      simp [firstPositions, unnamed]
  | cons parameter parameters induction =>
      by_cases later : added.name = "" ∨ added.name ∈ parameters.map DocParameter.name
      · simp [firstPositions, induction later]
      · have same : added.name = parameter.name := by
          simp only [List.map_cons, List.mem_cons] at known
          grind
        have named : parameter.name ≠ "" := by grind
        have new : firstPositions (offset + 1) (parameters ++ [added]) = _ :=
          firstPositions_append_of_new (by grind) (by grind)
        simp [firstPositions, new, same, named]

/-! ## Comments -/

/-- What a documentation comment says about the types of a declaration. -/
structure Comment where
  parameters : List DocParameter
  index : List (String × Nat)
  returnType : Option UnionType
  index_eq : index = firstPositions 0 parameters
deriving DecidableEq

namespace Comment

/-- The index follows from the parameters, so it tells no comments apart. -/
@[ext (iff := false)] theorem ext {first second : Comment}
    (parameters : first.parameters = second.parameters)
    (returnType : first.returnType = second.returnType) : first = second := by
  rcases first with ⟨entries, index, type, rfl⟩
  rcases second with ⟨otherEntries, otherIndex, otherType, rfl⟩
  obtain rfl : entries = otherEntries := parameters
  obtain rfl : type = otherType := returnType
  rfl

/-! ## Building -/

def empty : Comment where
  parameters := []
  index := []
  returnType := none
  index_eq := rfl

instance : EmptyCollection Comment := ⟨empty⟩

@[simp] theorem parameters_empty : (∅ : Comment).parameters = [] := rfl

@[simp] theorem returnType_empty : (∅ : Comment).returnType = none := rfl

/-- Whether a parameter would be the one that is found by its name. -/
def introduces (comment : Comment) (documented : DocParameter) : Bool :=
  documented.name ≠ "" && (comment.index.lookup documented.name).isNone

/-- Record one more parameter. One without a name, or whose name is already
taken, can be found by its position only. -/
def add (comment : Comment) (documented : DocParameter) : Comment where
  parameters := comment.parameters ++ [documented]
  index :=
    if comment.introduces documented then
      comment.index ++ [(documented.name, comment.parameters.length)]
    else
      comment.index
  returnType := comment.returnType
  index_eq := by
    have known : documented.name ∈ (firstPositions 0 comment.parameters).map Prod.fst ↔
        _ := mem_map_fst_firstPositions
    have found : (comment.index.lookup documented.name).isSome ↔
        documented.name ∈ comment.index.map Prod.fst := by simp
    rw [← comment.index_eq, ← found] at known
    split
    · rename_i new
      simp only [introduces, Bool.and_eq_true, decide_eq_true_eq,
        Option.isNone_iff_eq_none] at new
      rw [firstPositions_append_of_new new.1 (by simp_all), ← comment.index_eq]
      simp
    · rename_i old
      rw [firstPositions_append_of_known, ← comment.index_eq]
      simp only [introduces, Bool.and_eq_true, decide_eq_true_eq,
        Option.isNone_iff_eq_none] at old
      by_cases unnamed : documented.name = ""
      · exact .inl unnamed
      · exact .inr (known.1 (by simp_all [Option.isSome_iff_ne_none])).2

@[simp] theorem parameters_add (comment : Comment) (documented : DocParameter) :
    (comment.add documented).parameters = comment.parameters ++ [documented] := rfl

@[simp] theorem returnType_add (comment : Comment) (documented : DocParameter) :
    (comment.add documented).returnType = comment.returnType := rfl

def setReturnType (comment : Comment) (type : UnionType) : Comment :=
  { comment with returnType := some type }

@[simp] theorem parameters_setReturnType (comment : Comment) (type : UnionType) :
    (comment.setReturnType type).parameters = comment.parameters := rfl

@[simp] theorem returnType_setReturnType (comment : Comment) (type : UnionType) :
    (comment.setReturnType type).returnType = some type := rfl

def addMany (comment : Comment) (documented : List DocParameter) : Comment :=
  documented.foldl add comment

@[simp] theorem parameters_addMany (comment : Comment)
    (documented : List DocParameter) :
    (comment.addMany documented).parameters = comment.parameters ++ documented := by
  induction documented generalizing comment with
  | nil => simp [addMany]
  | cons first others induction =>
      have added := induction (comment.add first)
      simpa [addMany] using added

def ofParameters (documented : List DocParameter) : Comment :=
  addMany ∅ documented

@[simp] theorem parameters_ofParameters (documented : List DocParameter) :
    (ofParameters documented).parameters = documented := by
  simp [ofParameters]

/-! ## Looking up -/

def names (comment : Comment) : List String :=
  comment.index.map Prod.fst

def isEmpty (comment : Comment) : Bool :=
  comment.parameters.isEmpty && comment.returnType.isNone

def named? (comment : Comment) (offset : Nat) : Option DocParameter :=
  comment.parameters[offset]?.filter (·.name ≠ "")

/-- What is said about a declared parameter: the first entry of its name, else
the one at its position. -/
def parameterFor? (comment : Comment) (name : String) (offset : Nat) :
    Option DocParameter :=
  ((comment.index.lookup name).bind (comment.parameters[·]?)).or (comment.named? offset)

example :
    let comment := ofParameters [⟨"a", ∅, false⟩, .placeholder, ⟨"b", .null, false⟩]
    comment.parameterFor? "b" 0 = some ⟨"b", .null, false⟩ ∧
      comment.parameterFor? "c" 0 = some ⟨"a", ∅, false⟩ ∧
      comment.parameterFor? "c" 1 = none := by
  decide

end Comment

end ParamTypes
