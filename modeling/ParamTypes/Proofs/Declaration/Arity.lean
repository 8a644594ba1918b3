import ParamTypes.Proofs.Reconciliation.Frame
import ParamTypes.Proofs.Related

/-!
Arity counts. They are stored beside the parameters and kept by whoever builds the
list. To count a finished list and to count while it is built comes to the same, and
counts that are right stay right when types are reconciled, since nothing that makes a
parameter optional changes.
-/

namespace ParamTypes

/-! ## Parameter lists -/

namespace ParameterList

variable {list : ParameterList}

structure IsCounted (list : ParameterList) : Prop where
  required_add_optional : list.required + list.optional = list.parameters.length
  optional_eq : list.optional = list.parameters.countP Parameter.isOptional

theorem IsCounted.eq_ofList (counted : list.IsCounted) : list = ofList list.parameters := by
  rcases list with ⟨parameters, required, optional⟩
  rcases counted with ⟨sum, isCount⟩
  dsimp only at sum isCount
  have rest : required = parameters.length - optional := Nat.eq_sub_of_add_eq sum
  rw [isCount] at rest
  rw [ofList, rest, isCount]

def appendCounted (list : ParameterList) (parameter : Parameter) : ParameterList :=
  if parameter.isOptional then
    (list.append parameter).setOptional (list.optional + 1)
  else
    (list.append parameter).setRequired (list.required + 1)

theorem parameters_appendCounted (list : ParameterList) (parameter : Parameter) :
    (list.appendCounted parameter).parameters = list.parameters ++ [parameter] := by
  rw [appendCounted]
  split <;> rfl

theorem IsCounted.appendCounted (counted : list.IsCounted) (parameter : Parameter) :
    (list.appendCounted parameter).IsCounted := by
  have sum := counted.required_add_optional
  have isCount := counted.optional_eq
  rw [ParameterList.appendCounted]
  split
  · rename_i optional
    constructor
    · simp only [append, setOptional, List.length_append, List.length_singleton]
      omega
    · simp only [append, setOptional, List.countP_append, List.countP_singleton, optional,
        if_true, isCount]
  · rename_i mandatory
    constructor
    · simp only [append, setRequired, List.length_append, List.length_singleton]
      omega
    · simp only [append, setRequired, List.countP_append, List.countP_singleton,
        if_neg mandatory, isCount, Nat.add_zero]

theorem foldl_appendCounted (counted : list.IsCounted) (parameters : List Parameter) :
    parameters.foldl appendCounted list = ofList (list.parameters ++ parameters) := by
  induction parameters generalizing list with
  | nil => rw [List.foldl_nil, List.append_nil, ← counted.eq_ofList]
  | cons parameter parameters induction =>
      rw [List.foldl_cons, induction (counted.appendCounted parameter),
        parameters_appendCounted, List.append_assoc, List.singleton_append]

end ParameterList

/-! ## Declarations -/

theorem Parameter.Extends.isOptional_eq {later earlier : Parameter}
    (extended : later.Extends earlier) : later.isOptional = earlier.isOptional := by
  rw [isOptional, isOptional, extended.isVariadic_eq, extended.defaultType_eq]

namespace Declaration

theorem Extends.isCounted {later earlier : Declaration} (extended : later.Extends earlier)
    (counted : earlier.signature.parameters.IsCounted) :
    later.signature.parameters.IsCounted where
  required_add_optional := by
    rw [extended.required_eq, extended.optional_eq, counted.required_add_optional]
    exact extended.parameters_extend.length_eq.symm
  optional_eq := by
    rw [extended.optional_eq, counted.optional_eq]
    exact (rel_countP (fun _ _ each => each.isOptional_eq) extended.parameters_extend).symm

/-- A finished list is counted without a remainder: its optional parameters are those
that are variadic or have a default value, and all others are required. The same list
comes about if the parameters are appended one by one to an empty one and each raises
its count. A declaration whose counts are right in this sense has the counts of its
parameters after any pass of reconciliation, too. -/
theorem counts_agree [Sink σ] (parameters : List Parameter) (declaration : Declaration)
    (comment : Comment) (site : Span) (sink : σ) :
    let list := ParameterList.ofList parameters
    (list.parameters = parameters ∧
        list.optional = parameters.countP
          (fun parameter => parameter.isVariadic || parameter.defaultType.isSome) ∧
        list.optional ≤ parameters.length ∧
        list.required + list.optional = parameters.length ∧
        (parameters.length < UInt64.size → list.total = parameters.length)) ∧
      parameters.foldl ParameterList.appendCounted {} = list ∧
      (declaration.signature.parameters.IsCounted →
        let reconciled := (declaration.reconcile comment site sink).1
        reconciled.signature.parameters.IsCounted ∧
          reconciled.signature.parameters = .ofList reconciled.parameters) := by
  intro list
  have sum := ParameterList.required_add_optional_ofList parameters
  refine ⟨⟨rfl, rfl, List.countP_le_length, sum, ?_⟩, ?_, ?_⟩
  · intro inWord
    rw [ParameterList.total, sum, Nat.mod_eq_of_lt inWord]
  · exact ParameterList.foldl_appendCounted ⟨rfl, rfl⟩ parameters
  · intro counted reconciled
    have extended : reconciled.Extends declaration := by
      simp only [reconciled, reconcile_eq]
      exact declaration.extends_merged comment
    have stillCounted := extended.isCounted counted
    exact ⟨stillCounted, stillCounted.eq_ofList⟩

theorem counts_agree_of_three :
    let int := UnionType.ofKeyword .int
    let parameters : List Parameter :=
      [⟨"format", ∅, false, none⟩, ⟨"width", ∅, false, some int⟩, ⟨"rest", int, true, some .null⟩]
    let list := parameters.foldl ParameterList.appendCounted {}
    let declaration : Declaration := { name := "print", signature := { parameters := list } }
    let comment := Comment.ofParameters [⟨"format", .ofKeyword .string, false⟩]
    let reconciled :=
      (declaration.reconcile comment (Span.ofLine "a.src" 3) ([] : List Finding)).1
    parameters.length < UInt64.size ∧ list.total = 3 ∧
      declaration.signature.parameters.IsCounted ∧
      reconciled.parameters ≠ parameters ∧
      reconciled.signature.parameters = .ofList reconciled.parameters := by
  intro int parameters list declaration comment reconciled
  have agree := counts_agree parameters declaration comment (Span.ofLine "a.src" 3)
    ([] : List Finding)
  have counted : declaration.signature.parameters.IsCounted := ⟨by decide, by decide⟩
  have short : parameters.length < UInt64.size := by decide
  refine ⟨short, ?_, counted, by decide, (agree.2.2 counted).2⟩
  have isList : list = .ofList parameters := agree.2.1
  rw [isList]
  exact agree.1.2.2.2.2 short

end Declaration

end ParamTypes
