import ParamTypes.Proofs.Reconciliation.Findings

/-!
Declared types with further atoms. A declared type hides the documented one, and what
casts to it casts to it with further atoms too, so nothing new is said about the
default value.
-/

namespace ParamTypes

namespace Parameter

variable {parameter : Parameter} {documented? : Option DocParameter} {site : Span}

theorem forall_not_default_iff :
    (∀ finding ∈ parameter.findings documented? site,
        finding.code ≠ Issue.typeMismatchDefault.code) ↔
      parameter.defaultFindings (parameter.typeBeforeDefault documented?) site = [] := by
  constructor
  · intro none
    apply List.eq_nil_iff_forall_not_mem.mpr
    intro finding told
    exact none finding (List.mem_append_right _ told) (default_of_mem_defaultFindings told).2
  · intro silent finding told
    rw [findings, silent, List.append_nil] at told
    exact not_default_of_mem_variadicFindings told

theorem defaultFindings_of_widened {widened : UnionType} (typed : parameter.type ≠ ∅)
    (contained : ∀ atom ∈ parameter.type, atom ∈ widened)
    (silent : parameter.defaultFindings parameter.type site = []) :
    Parameter.defaultFindings { parameter with type := widened } widened site = [] := by
  rw [defaultFindings_eq_nil_iff] at silent ⊢
  intro default given
  exact (silent default given).imp_right (UnionType.castsTo_of_widened_target typed contained)

end Parameter

/-! ## Passes -/

namespace Declaration

variable {declaration widened : Declaration} {offset : Nat} {parameter : Parameter}
  {wide : UnionType}

def AcceptsDefault (declaration : Declaration) (comment : Comment) (site : Span)
    (offset : Nat) : Prop :=
  ∀ block ∈ (declaration.findingBlocks comment site)[offset]?, ∀ finding ∈ block,
    finding.code ≠ Issue.typeMismatchDefault.code

instance (declaration : Declaration) (comment : Comment) (site : Span) (offset : Nat) :
    Decidable (declaration.AcceptsDefault comment site offset) :=
  inferInstanceAs (Decidable (∀ block ∈ (declaration.findingBlocks comment site)[offset]?,
    ∀ finding ∈ block, finding.code ≠ Issue.typeMismatchDefault.code))

theorem AcceptsDefault.of_widened (internal : widened.isInternal = declaration.isInternal)
    (atOffset : declaration.parameters[offset]? = some parameter)
    (wideAtOffset : widened.parameters[offset]? = some { parameter with type := wide })
    (typed : parameter.type ≠ ∅) (contained : ∀ atom ∈ parameter.type, atom ∈ wide)
    {comment : Comment} {site : Span}
    (accepts : declaration.AcceptsDefault comment site offset) :
    widened.AcceptsDefault comment site offset := by
  intro block isBlock
  cases trusted : declaration.isInternal with
  | true =>
      rw [findingBlocks_eq_nil (internal.trans trusted), List.getElem?_nil] at isBlock
      cases isBlock
  | false =>
      rw [AcceptsDefault, getElem?_findingBlocks trusted, atOffset, Option.map_some] at accepts
      rw [getElem?_findingBlocks (internal.trans trusted), wideAtOffset, Option.map_some] at isBlock
      rw [← Option.some.inj isBlock]
      have fits := Parameter.forall_not_default_iff.mp (accepts _ rfl)
      rw [Parameter.typeBeforeDefault_of_typed typed] at fits
      apply Parameter.forall_not_default_iff.mpr
      have stillTyped : wide ≠ ∅ := OrderedSet.ne_empty_of_subset typed contained
      rw [Parameter.typeBeforeDefault_of_typed stillTyped]
      exact Parameter.defaultFindings_of_widened typed contained fits

end Declaration

namespace UnionType

/-- A union of types of which something is known casts to what one of them casts to,
and is cast to by what casts to one of them. So further atoms never make a cast fail,
and one common atom makes it succeed. If a declared type gets further atoms, a pass
complains about the default value of the parameter only if it did so before. -/
theorem castsTo_distributes :
    (∀ first second : UnionType, first ≠ ∅ → second ≠ ∅ → ∀ other : UnionType,
      (first ∪ second).castsTo other = (first.castsTo other || second.castsTo other) ∧
        other.castsTo (first ∪ second) = (other.castsTo first || other.castsTo second)) ∧
    (∀ narrow wide : UnionType, narrow ≠ ∅ → (∀ atom ∈ narrow, atom ∈ wide) →
      ∀ other : UnionType,
        (narrow.castsTo other = true → wide.castsTo other = true) ∧
          (other.castsTo narrow = true → other.castsTo wide = true)) ∧
    (∀ (source target : UnionType) (atom : Atom),
      atom ∈ source → atom ∈ target → source.castsTo target = true) ∧
    ∀ (declaration widened : Declaration) (comment : Comment) (site : Span),
      widened.isInternal = declaration.isInternal →
        ((declaration.reconcile comment site ([] : List Finding)).2 =
            (declaration.findingBlocks comment site).flatten ∧
          (widened.reconcile comment site ([] : List Finding)).2 =
            (widened.findingBlocks comment site).flatten) ∧
        ∀ (offset : Nat) (parameter : Parameter) (wide : UnionType),
          declaration.parameters[offset]? = some parameter →
          widened.parameters[offset]? = some { parameter with type := wide } →
          parameter.type ≠ ∅ → (∀ atom ∈ parameter.type, atom ∈ wide) →
          declaration.AcceptsDefault comment site offset →
          widened.AcceptsDefault comment site offset := by
  refine ⟨?_, ?_, fun _ _ _ => castsTo_of_mem, ?_⟩
  · intro first second known secondKnown other
    exact ⟨union_castsTo known secondKnown other, castsTo_union known secondKnown other⟩
  · intro narrow wide known contained other
    exact ⟨castsTo_of_widened_source known contained, castsTo_of_widened_target known contained⟩
  · intro declaration widened comment site internal
    refine ⟨⟨declaration.told_reconcile comment site, widened.told_reconcile comment site⟩, ?_⟩
    intro offset parameter wide atOffset wideAtOffset typed contained accepts
    exact accepts.of_widened internal atOffset wideAtOffset typed contained

theorem castsTo_distributes_float :
    let string := UnionType.ofKeyword .string
    let float := UnionType.ofKeyword .float
    let int := UnionType.ofKeyword .int
    let parameter : Parameter := ⟨"x", float, false, some int⟩
    let other : Parameter := ⟨"y", string, false, some int⟩
    let declaration : Declaration :=
      { name := "f", signature.parameters.parameters := [other, parameter] }
    let widened :=
      declaration.setParameters [other, { parameter with type := string ∪ float }]
    let site := Span.ofLine "a.src" 3
    (string ≠ ∅ ∧ float ≠ ∅ ∧ ∀ atom ∈ float, atom ∈ string ∪ float) ∧
      (int.castsTo (string ∪ float) = (int.castsTo string || int.castsTo float)) ∧
      (int.castsTo string = false ∧ int.castsTo (string ∪ float) = true) ∧
      (string ∪ float).castsTo float = true ∧
      (declaration.AcceptsDefault ∅ site 1 ∧ widened.AcceptsDefault ∅ site 1) ∧
      ¬ widened.AcceptsDefault ∅ site 0 ∧
      (widened.reconcile ∅ site ([] : List Finding)).2.map Finding.code =
        [Issue.typeMismatchDefault.code] := by
  intro string float int parameter other declaration widened site
  have known : string ≠ ∅ := by decide
  have floatKnown : float ≠ ∅ := by decide
  have contained : ∀ atom ∈ float, atom ∈ string ∪ float :=
    fun _ isAtom => OrderedSet.mem_union.mpr (.inr isAtom)
  have accepted : int.castsTo float = true := by decide
  have accepts : declaration.AcceptsDefault ∅ site 1 := by decide
  rcases castsTo_distributes with ⟨unions, widens, shares, passes⟩
  exact ⟨⟨known, floatKnown, contained⟩, (unions string float known floatKnown int).2,
    ⟨by decide, (widens float _ floatKnown contained int).2 accepted⟩,
    shares _ float (.keyword .float) (contained _ (by decide)) (by decide),
    ⟨accepts, (passes declaration widened ∅ site rfl).2 1 parameter _ rfl rfl floatKnown
      contained accepts⟩,
    by decide, by decide⟩

end UnionType

end ParamTypes
