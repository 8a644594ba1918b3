import ParamTypes.Proofs.Comment.Lookup
import ParamTypes.Proofs.OrderedSet

/-!
Comments through all of their histories: the index of names, which is kept up call
by call, leads to where a scan of the added parameters leads
(`parameterFor?_eq_scan?`).

A parameter is told from its equals by its position. The index never forgets the
position of a name and never exchanges it, so what a call answers about a parameter
holds from then on.
-/

namespace ParamTypes

/-! ## Names in the order of appearance -/

theorem givenNames_append_singleton (parameters : List DocParameter) (added : DocParameter) :
    givenNames (parameters ++ [added]) =
      if added.name = "" then givenNames parameters
      else givenNames parameters ++ [added.name] := by
  by_cases unnamed : added.name = "" <;> simp [givenNames, unnamed]

theorem map_fst_firstPositions (offset : Nat) (parameters : List DocParameter) :
    (firstPositions offset parameters).map Prod.fst = (givenNames parameters).eraseDups := by
  induction parameters using List.reverseRecOn with
  | nil => rfl
  | append_singleton parameters added induction =>
      rw [givenNames_append_singleton]
      by_cases unnamed : added.name = ""
      · rw [firstPositions_append_of_known (.inl unnamed), induction, if_pos unnamed]
      · rw [if_neg unnamed, OrderedSet.eraseDups_append_singleton, ← induction]
        by_cases known : added.name ∈ parameters.map DocParameter.name
        · rw [firstPositions_append_of_known (.inr known),
            if_pos (mem_givenNames.mpr ⟨unnamed, known⟩)]
        · rw [firstPositions_append_of_new unnamed known,
            if_neg (fun given => known (mem_givenNames.mp given).2), List.map_append,
            List.map_singleton]

namespace Comment

/-! ## Positions -/

def positionFor? (comment : Comment) (name : String) (offset : Nat) : Option Nat :=
  (comment.index.lookup name).or ((comment.named? offset).map fun _ => offset)

theorem lt_of_firstPosition? {comment : Comment} {name : String} {position : Nat}
    (isFirst : comment.firstPosition? name = some position) :
    position < comment.parameters.length := by
  rw [firstPosition?] at isFirst
  split at isFirst
  · cases isFirst
  · exact (List.findIdx?_eq_some_iff_getElem.mp isFirst).1

theorem parameterFor?_eq_getElem? (comment : Comment) (name : String) (offset : Nat) :
    comment.parameterFor? name offset =
      (comment.positionFor? name offset).bind (comment.parameters[·]?) := by
  rw [parameterFor?, positionFor?, lookup_index]
  cases isFirst : comment.firstPosition? name with
  | none =>
      rw [Option.bind_none, Option.none_or, Option.none_or]
      cases isNamed : comment.named? offset with
      | none => rfl
      | some documented =>
          rw [named?, Option.filter_eq_some_iff] at isNamed
          exact isNamed.1.symm
  | some position =>
      rw [Option.some_or, Option.bind_some,
        List.getElem?_eq_getElem (lt_of_firstPosition? isFirst), Option.some_or]

theorem positionFor?_name_eq_some_iff {comment : Comment} {before later : List DocParameter}
    {documented : DocParameter}
    (isParameters : comment.parameters = before ++ documented :: later) (offset : Nat) :
    comment.positionFor? documented.name offset = some before.length ↔
      documented.name ≠ "" ∧ documented.name ∉ before.map DocParameter.name := by
  rw [positionFor?, lookup_index, firstPosition?, isParameters]
  by_cases unnamed : documented.name = ""
  · rw [if_pos unnamed, Option.none_or]
    constructor
    · intro found
      rcases Option.map_eq_some_iff.mp found with ⟨other, isNamed, rfl⟩
      rw [named?, isParameters, List.getElem?_append_right (Nat.le_refl _), Nat.sub_self,
        List.getElem?_cons_zero, Option.filter_eq_some_iff, Option.some_inj] at isNamed
      rcases isNamed with ⟨rfl, named⟩
      exact absurd unnamed (of_decide_eq_true named)
    · exact fun named => absurd unnamed named.1
  · rw [if_neg unnamed, List.findIdx?_append, List.findIdx?_cons]
    cases isFirst : before.findIdx? (·.name = documented.name) with
    | none =>
        have new : documented.name ∉ before.map DocParameter.name := by
          simpa [List.findIdx?_eq_none_iff] using isFirst
        simp [unnamed, new]
    | some position =>
        rcases List.findIdx?_eq_some_iff_getElem.mp isFirst with ⟨inside, same, _⟩
        have known : documented.name ∈ before.map DocParameter.name :=
          List.mem_map.mpr ⟨before[position], List.getElem_mem inside, of_decide_eq_true same⟩
        simp [known, Nat.ne_of_lt inside]

theorem introduces_iff {comment : Comment} {documented : DocParameter} :
    comment.introduces documented = true ↔
      documented.name ≠ "" ∧
        documented.name ∉ comment.parameters.map DocParameter.name := by
  rw [introduces, lookup_index, firstPosition?]
  by_cases unnamed : documented.name = "" <;> simp [unnamed]

/-! ## Scans -/

/-- What a scan of parameters finds: the first of a name that one of them has, else
the one at the position, if it has a name. -/
def scan? (parameters : List DocParameter) (name : String) (offset : Nat) :
    Option DocParameter :=
  if name ∈ givenNames parameters then
    parameters.find? (·.name = name)
  else
    parameters[offset]?.filter (·.name ≠ "")

theorem parameterFor?_eq_scan? (comment : Comment) (name : String) (offset : Nat) :
    comment.parameterFor? name offset = scan? comment.parameters name offset := by
  rw [parameterFor?_eq, firstOfName?, scan?, ← named?]
  by_cases unnamed : name = ""
  · rw [if_pos unnamed, Option.none_or,
      if_neg (fun given => (mem_givenNames.mp given).1 unnamed)]
  · rw [if_neg unnamed]
    cases isFirst : comment.parameters.find? (·.name = name) with
    | none =>
        have unknown : name ∉ comment.parameters.map DocParameter.name := by
          simpa using isFirst
        rw [Option.none_or, if_neg (fun given => unknown (mem_givenNames.mp given).2)]
    | some documented =>
        have isNamed : documented.name = name := by simpa using List.find?_some isFirst
        have known : name ∈ comment.parameters.map DocParameter.name :=
          List.mem_map.mpr ⟨documented, List.mem_of_find?_eq_some isFirst, isNamed⟩
        rw [Option.some_or, if_pos (mem_givenNames.mpr ⟨unnamed, known⟩)]

/-! ## Histories -/

inductive Call
  | add (documented : DocParameter)
  | setReturnType (type : UnionType)

def Call.isAdd : Call → Bool
  | add _ => true
  | setReturnType _ => false

def Call.added? : Call → Option DocParameter
  | add documented => some documented
  | setReturnType _ => none

def after (comment : Comment) : Call → Comment
  | .add documented => comment.add documented
  | .setReturnType type => comment.setReturnType type

def run (calls : List Call) : Comment :=
  calls.foldl after ∅

def added (calls : List Call) : List DocParameter :=
  calls.filterMap Call.added?

theorem parameters_run (calls : List Call) : (run calls).parameters = added calls := by
  induction calls using List.reverseRecOn with
  | nil => rfl
  | append_singleton calls call induction =>
      have next : run (calls ++ [call]) = (run calls).after call := by
        simp [run]
      rw [next, added, List.filterMap_append, ← added, ← induction]
      cases call with
      | add documented => rfl
      | setReturnType type => simp [after, Call.added?]

/-- Whatever is called, a look-up answers like a scan of the parameters that were
added, and the names are those of these parameters. A parameter is answered to be
the one of its name exactly if look-ups by this name find it, with any offset and
after any later calls; its position tells it from its equals. -/
theorem lookup_run (calls : List Call) :
    ((run calls).parameters = added calls ∧
        (run calls).parameters.length = calls.countP Call.isAdd) ∧
      (∀ name offset,
        (run calls).parameterFor? name offset = scan? (added calls) name offset ∧
          (run calls).parameterFor? name offset =
            ((run calls).positionFor? name offset).bind ((added calls)[·]?)) ∧
      (run calls).names = (givenNames (added calls)).eraseDups ∧
      ∀ (documented : DocParameter) (later : List Call) (offset : Nat),
        (run calls).introduces documented = true ↔
          (run (calls ++ .add documented :: later)).positionFor? documented.name offset =
            some (added calls).length := by
  have isAdded := parameters_run calls
  refine ⟨⟨isAdded, ?_⟩, fun name offset => ⟨?_, ?_⟩, ?_, fun documented later offset => ?_⟩
  · rw [isAdded, added, List.length_filterMap_eq_countP]
    congr 1
    funext call
    cases call <;> rfl
  · rw [parameterFor?_eq_scan?, isAdded]
  · rw [parameterFor?_eq_getElem?, isAdded]
  · rw [names, (run calls).index_eq, map_fst_firstPositions, isAdded]
  · have isParameters : (run (calls ++ .add documented :: later)).parameters =
        added calls ++ documented :: added later := by
      rw [parameters_run, added, List.filterMap_append, ← added]
      rfl
    rw [introduces_iff, isAdded, positionFor?_name_eq_some_iff isParameters]

end Comment

end ParamTypes
