import ParamTypes.Proofs.Declaration.History
import ParamTypes.Proofs.Reconciliation.Pass

/-!
The parameters that callers meet. An argument is taken by the parameter at its
position, and those behind the last parameter are taken by the last one, if it is
variadic.
-/

namespace ParamTypes

namespace ParameterList

/-! ## Parameter lists -/

variable {list : ParameterList} {index : Nat}

theorem isVariadic_eq_any (list : ParameterList) :
    list.isVariadic =
      list.parameters[list.parameters.length - 1]?.any Parameter.isVariadic := by
  rw [isVariadic, List.getLast?_eq_getElem?]

theorem forCaller?_eq (list : ParameterList) (index : Nat) :
    list.forCaller? index =
      if index < list.parameters.length ∨ list.isVariadic = true then
        list.parameters[min index (list.parameters.length - 1)]?.map Parameter.single
      else
        none := by
  by_cases inside : index < list.parameters.length
  · have position : min index (list.parameters.length - 1) = index := by omega
    rw [if_pos (.inl inside), position, forCaller?, List.getElem?_eq_getElem inside,
      Option.some_or]
  · have position : min index (list.parameters.length - 1) = list.parameters.length - 1 := by
      omega
    simp only [inside, false_or, position, isVariadic_eq_any]
    rw [forCaller?, List.getElem?_eq_none (Nat.le_of_not_lt inside), Option.none_or,
      List.getLast?_eq_getElem?]
    cases list.parameters[list.parameters.length - 1]? with
    | none => simp
    | some last => by_cases variadic : last.isVariadic <;> simp [variadic]

theorem isVariadic_iff (list : ParameterList) :
    list.isVariadic = true ↔ ∃ last ∈ list.parameters.getLast?, last.isVariadic = true := by
  rw [isVariadic, Option.any_eq_true]
  rfl

theorem isSome_forCaller?_iff :
    (list.forCaller? index).isSome = true ↔
      index < list.parameters.length ∨
        ∃ last ∈ list.parameters.getLast?, last.isVariadic = true := by
  rw [forCaller?_eq, ← isVariadic_iff]
  split
  · rename_i taken
    have nonempty : 0 < list.parameters.length := by
      rcases taken with inside | variadic
      · exact Nat.zero_lt_of_lt inside
      · rcases list.isVariadic_iff.mp variadic with ⟨last, isLast, _⟩
        exact List.length_pos_of_mem (List.mem_of_getLast? isLast)
    have inside : min index (list.parameters.length - 1) < list.parameters.length := by omega
    simp [taken, List.getElem?_eq_getElem inside]
  · rename_i untaken
    simp [untaken]

theorem exists_of_forCaller? {answer : Parameter} (taken : list.forCaller? index = some answer) :
    ∃ parameter, list.parameters[min index (list.parameters.length - 1)]? = some parameter ∧
      answer = parameter.single := by
  rw [forCaller?_eq] at taken
  split at taken
  · rcases Option.map_eq_some_iff.mp taken with ⟨parameter, atPosition, rfl⟩
    exact ⟨parameter, atPosition, rfl⟩
  · cases taken

theorem forCaller?_set {inner : Nat} (notLast : inner + 1 < list.parameters.length)
    (elsewhere : index ≠ inner) (replacement : Parameter) :
    (list.setParameters (list.parameters.set inner replacement)).forCaller? index =
      list.forCaller? index := by
  have lastElsewhere : inner ≠ list.parameters.length - 1 := by omega
  have takerElsewhere : inner ≠ min index (list.parameters.length - 1) := by omega
  simp only [forCaller?_eq, isVariadic_eq_any, setParameters, List.length_set,
    List.getElem?_set_ne lastElsewhere, List.getElem?_set_ne takerElsewhere]

end ParameterList

/-! ## Declarations -/

namespace Declaration

variable {declaration : Declaration} {index : Nat}

theorem isVariadic_merged (checked : declaration.isInternal = false) (comment : Comment) :
    (declaration.merged comment).signature.parameters.isVariadic =
      declaration.signature.parameters.isVariadic := by
  rw [ParameterList.isVariadic_eq_any, ParameterList.isVariadic_eq_any, ← parameters,
    ← parameters, length_parameters_merged checked, getElem?_parameters_merged checked,
    Option.any_map]
  rfl

theorem isSome_forCaller?_merged (checked : declaration.isInternal = false)
    (comment : Comment) (index : Nat) :
    ((declaration.merged comment).forCaller? index).isSome =
      (declaration.forCaller? index).isSome := by
  rw [Bool.eq_iff_iff, forCaller?, forCaller?, ParameterList.isSome_forCaller?_iff,
    ParameterList.isSome_forCaller?_iff, ← ParameterList.isVariadic_iff,
    ← ParameterList.isVariadic_iff, isVariadic_merged checked, ← parameters,
    length_parameters_merged checked]
  rfl

theorem exists_of_forCaller?_merged (checked : declaration.isInternal = false)
    (comment : Comment) {answer : Parameter}
    (taken : declaration.forCaller? index = some answer) :
    ∃ later, (declaration.merged comment).parameters[min index
        (declaration.parameters.length - 1)]? = some later ∧
      (declaration.merged comment).forCaller? index =
        some { answer with type := later.type } := by
  rcases ParameterList.exists_of_forCaller? taken with ⟨parameter, atPosition, rfl⟩
  have stillTaken := isSome_forCaller?_merged checked comment index
  rw [taken, Option.isSome_some] at stillTaken
  rcases Option.isSome_iff_exists.mp stillTaken with ⟨laterAnswer, laterTaken⟩
  rcases ParameterList.exists_of_forCaller? laterTaken with ⟨later, laterAtPosition, rfl⟩
  rw [← parameters, length_parameters_merged checked] at laterAtPosition
  refine ⟨later, laterAtPosition, laterTaken.trans ?_⟩
  rw [getElem?_parameters_merged checked, parameters, atPosition,
    Option.map_some] at laterAtPosition
  rw [← Option.some.inj laterAtPosition]
  rfl

/-- Whatever a declaration has gone through, an argument is taken exactly if it stands
before the end of the parameters or the last of them is variadic. It is taken as a
single value, by the parameter at its position or, if that is behind the last one, by
the last one. What stands before the last one takes no other argument, variadic or not,
so it could be exchanged without a difference. Questions leave the declaration as it is.
A pass over a declaration that is not internal exchanges the types in the answers for
the reconciled types of the same parameters, and changes nothing else in them. -/
theorem forCaller?_run [Sink σ] (start : Declaration) (calls : List Call) (index : Nat) :
    let declaration := start.run calls
    let parameters := declaration.parameters
    let position := min index (parameters.length - 1)
    ((∀ call ∈ calls, call.isReconcile = false) →
        parameters = Call.declared start.parameters calls) ∧
      ((declaration.forCaller? index).isSome = true ↔
        index < parameters.length ∨
          ∃ last ∈ parameters.getLast?, last.isVariadic = true) ∧
      (∀ answer, declaration.forCaller? index = some answer →
        ∃ parameter, parameters[position]? = some parameter ∧
          answer = { parameter with isVariadic := false }) ∧
      (∀ (inner : Nat) (replacement : Parameter),
        inner + 1 < parameters.length → index ≠ inner →
          (declaration.setParameters (parameters.set inner replacement)).forCaller? index =
            declaration.forCaller? index) ∧
      start.run (calls.filter (!·.isQuestion)) = declaration ∧
      ∀ (comment : Comment) (site : Span) (sink : σ), declaration.isInternal = false →
        let reconciled := (declaration.reconcile comment site sink).1
        (reconciled.forCaller? index).isSome = (declaration.forCaller? index).isSome ∧
          ∀ answer, declaration.forCaller? index = some answer →
            ∃ later, reconciled.parameters[position]? = some later ∧
              reconciled.forCaller? index = some { answer with type := later.type } := by
  intro declaration parameters position
  refine ⟨fun unmerged => start.parameters_run unmerged, ParameterList.isSome_forCaller?_iff,
    fun answer taken => ParameterList.exists_of_forCaller? taken, ?_,
    start.run_filter_isQuestion calls, ?_⟩
  · intro inner replacement notLast elsewhere
    exact ParameterList.forCaller?_set notLast elsewhere replacement
  · intro comment site sink checked reconciled
    have isMerged : reconciled = declaration.merged comment := by
      simp only [reconciled, reconcile_eq]
    rw [isMerged]
    exact ⟨isSome_forCaller?_merged checked comment index,
      fun answer taken => exists_of_forCaller?_merged checked comment taken⟩

theorem forCaller?_run_of_two_variadic :
    let int := UnionType.ofKeyword .int
    let string := UnionType.ofKeyword .string
    let calls : List Call :=
      [.append ⟨"format", string, false, none⟩, .forCaller 7,
        .setParameters [⟨"values", int, true, none⟩], .setRequired 3,
        .append ⟨"rest", ∅, true, some int⟩]
    let declaration := Declaration.run { name := "print" } calls
    let exchanged := declaration.setParameters (declaration.parameters.set 0 ⟨"x", ∅, false, none⟩)
    let comment := Comment.ofParameters [.placeholder, ⟨"more", string, true⟩]
    let reconciled :=
      (declaration.reconcile comment (Span.ofLine "a.src" 3) ([] : List Finding)).1
    let index := UInt64.size - 1
    (∀ call ∈ calls, call.isReconcile = false) ∧
      declaration.parameters = Call.declared [] calls ∧
      declaration.isInternal = false ∧
      declaration.forCaller? index = some ⟨"rest", ∅, false, some int⟩ ∧
      exchanged.forCaller? index = some ⟨"rest", ∅, false, some int⟩ ∧
      (∃ parameter, declaration.parameters[1]? = some parameter ∧
        (⟨"rest", ∅, false, some int⟩ : Parameter) = { parameter with isVariadic := false }) ∧
      ∃ later, reconciled.parameters[1]? = some later ∧
        reconciled.forCaller? index = some ⟨"rest", later.type, false, some int⟩ := by
  intro int string calls declaration exchanged comment reconciled index
  have unmerged : ∀ call ∈ calls, call.isReconcile = false := by decide
  have answered : declaration.forCaller? index = some ⟨"rest", ∅, false, some int⟩ := by decide
  rcases forCaller?_run (σ := List Finding) { name := "print" } calls index with
    ⟨declares, _, answers, exchanges, _, passes⟩
  exact ⟨unmerged, declares unmerged, rfl, answered,
    (exchanges 0 _ (by decide) (by decide)).trans answered, answers _ answered,
    (passes comment (Span.ofLine "a.src" 3) [] rfl).2 _ answered⟩

end Declaration

end ParamTypes
