import ParamTypes.Proofs.Reconciliation.Findings

/-!
Passes after the first one. A type that is known after a pass stays as it is in
every later pass, and a pass with the same comment finds nothing to change at
all: it only repeats the variadic mismatches.
-/

namespace ParamTypes

namespace UnionType

/-! ## Types that have settled -/

theorem withDefault_ne_empty {known : UnionType} (typed : known ≠ ∅)
    (default : UnionType) : known.withDefault default ≠ ∅ := by
  by_cases isNull : default = null
  · simpa [withDefault, isNull, typed] using union_ne_empty typed null
  · simpa [withDefault, isNull, typed] using union_ne_empty typed default

theorem withDefault_ne_empty_of_ne_null {default : UnionType} (notNull : default ≠ null)
    (known : UnionType) : known.withDefault default ≠ ∅ := by
  by_cases untyped : known = ∅
  · have universal : any ≠ ∅ := by decide
    simpa [withDefault, notNull, untyped] using union_ne_empty universal default
  · exact withDefault_ne_empty untyped default

theorem mem_withDefault {known default : UnionType} (typed : known.withDefault default ≠ ∅)
    {atom : Atom} (given : atom ∈ default) : atom ∈ known.withDefault default := by
  by_cases untyped : known = ∅
  · by_cases isNull : default = null
    · simp [withDefault, isNull, untyped] at typed
    · simp [withDefault, isNull, untyped, given]
  · by_cases isNull : default = null
    · simp [withDefault, untyped, isNull ▸ given, isNull]
    · simp [withDefault, isNull, untyped, given]

theorem withDefault_withDefault {known default : UnionType}
    (typed : known.withDefault default ≠ ∅) :
    (known.withDefault default).withDefault default = known.withDefault default := by
  have taken : known.withDefault default ∪ default = known.withDefault default :=
    OrderedSet.union_of_subset fun _ given => mem_withDefault typed given
  by_cases isNull : default = null
  · rw [isNull] at taken typed ⊢
    rw [withDefault, if_pos rfl, if_neg (by simpa using typed), taken]
  · rw [withDefault, if_neg isNull, if_neg (by simpa using typed), taken]

theorem merged_ne_empty {declared : UnionType} (typed : declared ≠ ∅)
    (documented? default? : Option UnionType) :
    declared.merged documented? default? ≠ ∅ := by
  cases default? with
  | none => rwa [merged, beforeDefault_of_ne_empty typed]
  | some default =>
      rw [merged, beforeDefault_of_ne_empty typed]
      exact withDefault_ne_empty typed default

theorem merged_of_merged_ne_empty {declared : UnionType}
    {documented? default? : Option UnionType}
    (settled : declared.merged documented? default? ≠ ∅) (other? : Option UnionType) :
    (declared.merged documented? default?).merged other? default? =
      declared.merged documented? default? := by
  cases default? with
  | none => exact beforeDefault_of_ne_empty settled other?
  | some default =>
      rw [merged, beforeDefault_of_ne_empty settled]
      exact withDefault_withDefault settled

theorem merged_merged (declared : UnionType) (documented? default? : Option UnionType) :
    (declared.merged documented? default?).merged documented? default? =
      declared.merged documented? default? := by
  by_cases settled : declared.merged documented? default? = ∅
  · -- Nothing was declared then, so the second merge starts like the first.
    have undeclared : declared = ∅ := Decidable.byContradiction fun typed =>
      merged_ne_empty typed documented? default? settled
    rw [settled]
    rw [undeclared] at settled
    exact settled
  · exact merged_of_merged_ne_empty settled documented?

theorem castsTo_of_subset {source target : UnionType}
    (contained : ∀ atom ∈ source, atom ∈ target) : source.castsTo target = true := by
  by_cases unknown : source = ∅
  · rw [unknown, empty_castsTo]
  · rcases OrderedSet.exists_mem_of_ne_empty unknown with ⟨atom, given⟩
    exact castsTo_of_mem given (contained atom given)

end UnionType

namespace Parameter

/-! ## Parameters after a pass -/

theorem merged_merged (parameter : Parameter) (documented? : Option DocParameter) :
    (parameter.merged documented?).merged documented? = parameter.merged documented? := by
  have same := parameter.type.merged_merged (documented?.map DocParameter.type)
    parameter.defaultType
  simp only [merged, same]

theorem merged_of_merged_typed {parameter : Parameter} {documented? : Option DocParameter}
    (settled : (parameter.merged documented?).type ≠ ∅) (other? : Option DocParameter) :
    (parameter.merged documented?).merged other? = parameter.merged documented? := by
  have same := UnionType.merged_of_merged_ne_empty settled (other?.map DocParameter.type)
  simp only [merged] at same ⊢
  rw [same]

theorem defaultFindings_merged (parameter : Parameter)
    (documented? : Option DocParameter) (site : Span) :
    (parameter.merged documented?).defaultFindings
      ((parameter.merged documented?).typeBeforeDefault documented?) site = [] := by
  apply defaultFindings_eq_nil_iff.mpr
  intro default given
  by_cases isNull : default = .null
  · exact .inl isNull
  · right
    let known := parameter.type.beforeDefault (documented?.map DocParameter.type)
    have settled : known.withDefault default ≠ ∅ :=
      UnionType.withDefault_ne_empty_of_ne_null isNull known
    have isMerged : (parameter.merged documented?).type = known.withDefault default := by
      have same : parameter.defaultType = some default := given
      simp only [merged, UnionType.merged, same, known]
    rw [typeBeforeDefault_of_typed (isMerged ▸ settled), isMerged]
    exact UnionType.castsTo_of_subset fun _ inDefault =>
      UnionType.mem_withDefault settled inDefault

end Parameter

/-! ## Findings after a pass -/

namespace Finding

def isVariadicMismatch (finding : Finding) : Bool :=
  finding.code == Issue.typeMismatchVariadicParam.code ||
    finding.code == Issue.typeMismatchVariadicComment.code

/-- A finding without what follows its first argument. -/
def outline (finding : Finding) : Code × Span × Option Argument :=
  (finding.code, finding.site, finding.arguments.head?)

end Finding

namespace Parameter

/-- A second look at the same entry finds the same mismatch of the variadic
markers. Only the parameter may be written with another type. -/
theorem outline_variadicFindings_merged (parameter : Parameter)
    (documented? : Option DocParameter) (site : Span) :
    ((parameter.merged documented?).variadicFindings documented? site).map
        Finding.outline =
      (parameter.variadicFindings documented? site).map Finding.outline := by
  cases documented? with
  | none => rfl
  | some documented =>
      have unchanged :
          (parameter.merged (some documented)).isVariadic = parameter.isVariadic := rfl
      by_cases same : documented.isVariadic = parameter.isVariadic
      · rw [variadicFindings_of_eq same, variadicFindings_of_eq (same.trans unchanged.symm)]
      · rw [variadicFindings_of_ne same, variadicFindings_of_ne (unchanged ▸ same)]
        rfl

theorem filter_findings (parameter : Parameter)
    (documented? : Option DocParameter) (site : Span) :
    (parameter.findings documented? site).filter Finding.isVariadicMismatch =
      parameter.variadicFindings documented? site := by
  have kept : (parameter.variadicFindings documented? site).filter
      Finding.isVariadicMismatch = parameter.variadicFindings documented? site := by
    apply List.filter_eq_self.mpr
    intro finding told
    simpa [Finding.isVariadicMismatch] using (variadic_of_mem_variadicFindings told).2
  have dropped : (parameter.defaultFindings (parameter.typeBeforeDefault documented?)
      site).filter Finding.isVariadicMismatch = [] := by
    apply List.filter_eq_nil_iff.mpr
    intro finding told
    simp only [Finding.isVariadicMismatch, (default_of_mem_defaultFindings told).2]
    decide
  rw [findings, List.filter_append, kept, dropped, List.append_nil]

theorem findings_merged (parameter : Parameter) (documented? : Option DocParameter)
    (site : Span) :
    (parameter.merged documented?).findings documented? site =
      (parameter.merged documented?).variadicFindings documented? site := by
  rw [findings, defaultFindings_merged, List.append_nil]

end Parameter

/-! ## Declarations after a pass -/

namespace Declaration

theorem merged_merged (declaration : Declaration) (comment : Comment) :
    (declaration.merged comment).merged comment = declaration.merged comment := by
  cases trusted : declaration.isInternal with
  | true => simp only [merged_of_isInternal trusted]
  | false =>
      have settled :
          (declaration.merged comment).parameters.mapIdx (fun offset parameter =>
            parameter.merged (comment.parameterFor? parameter.name offset)) =
          (declaration.merged comment).parameters := by
        rw [parameters_merged trusted, List.mapIdx_mapIdx]
        congr 1
        funext offset parameter
        exact parameter.merged_merged (comment.parameterFor? parameter.name offset)
      have checked : ¬ (declaration.merged comment).isInternal = true := by
        simp [trusted]
      rw [merged, if_neg checked, settled]
      rfl

theorem findingBlocks_merged {declaration : Declaration}
    (checked : declaration.isInternal = false) (comment : Comment) (site : Span) :
    (declaration.merged comment).findingBlocks comment site =
      declaration.parameters.mapIdx fun offset parameter =>
        (parameter.merged (comment.parameterFor? parameter.name offset)).variadicFindings
          (comment.parameterFor? parameter.name offset) site := by
  have stillChecked : ¬ (declaration.merged comment).isInternal = true := by
    simp [checked]
  rw [findingBlocks, if_neg stillChecked, parameters_merged checked, List.mapIdx_mapIdx]
  congr 1
  funext offset parameter
  exact parameter.findings_merged (comment.parameterFor? parameter.name offset) site

theorem outline_findingBlocks_merged (declaration : Declaration) (comment : Comment)
    (site : Span) :
    ((declaration.merged comment).findingBlocks comment site).map
        (List.map Finding.outline) =
      (declaration.findingBlocks comment site).map fun block =>
        (block.filter Finding.isVariadicMismatch).map Finding.outline := by
  cases trusted : declaration.isInternal with
  | true => simp [merged_of_isInternal trusted, findingBlocks_eq_nil trusted]
  | false =>
      apply List.ext_getElem?
      intro offset
      rw [findingBlocks_merged trusted, List.getElem?_map, List.getElem?_mapIdx,
        List.getElem?_map, getElem?_findingBlocks trusted, Option.map_map, Option.map_map]
      congr 1
      funext parameter
      simp only [Function.comp_def, Parameter.filter_findings]
      exact parameter.outline_variadicFindings_merged _ site

theorem not_default_of_mem_findingBlocks_merged {declaration : Declaration}
    {comment : Comment} {site : Span} {finding : Finding}
    (told : finding ∈ ((declaration.merged comment).findingBlocks comment site).flatten) :
    finding.code ≠ Issue.typeMismatchDefault.code := by
  rcases List.mem_flatten.mp told with ⟨block, isBlock, inBlock⟩
  cases trusted : declaration.isInternal with
  | true =>
      rw [merged_of_isInternal trusted, findingBlocks_eq_nil trusted] at isBlock
      cases isBlock
  | false =>
      rw [findingBlocks_merged trusted] at isBlock
      rcases List.mem_mapIdx.mp isBlock with ⟨offset, _, rfl⟩
      exact Parameter.not_default_of_mem_variadicFindings inBlock

theorem getElem?_parameters_merged_of_typed {declaration : Declaration}
    {comment : Comment} {offset : Nat} {settled : Parameter}
    (atOffset : (declaration.merged comment).parameters[offset]? = some settled)
    (typed : settled.type ≠ ∅) (other : Comment) :
    ((declaration.merged comment).merged other).parameters[offset]? = some settled := by
  cases trusted : declaration.isInternal with
  | true =>
      have stillTrusted : (declaration.merged comment).isInternal = true := by
        simp [trusted]
      rw [merged_of_isInternal stillTrusted, atOffset]
  | false =>
      have checked : (declaration.merged comment).isInternal = false := by
        simp [trusted]
      rw [getElem?_parameters_merged checked, atOffset, Option.map_some]
      rw [getElem?_parameters_merged trusted] at atOffset
      rcases Option.map_eq_some_iff.mp atOffset with ⟨parameter, _, rfl⟩
      rw [Parameter.merged_of_merged_typed typed]

/-- A second pass with the same comment leaves the declaration as it is and
repeats the variadic mismatches of each parameter, without new ones. With any
comment a pass leaves a parameter whose type is known as it is. -/
theorem reconcile_twice [Sink σ] [Sink τ] (declaration : Declaration)
    (comment : Comment) (site : Span) (sink : σ) (laterSink : τ) :
    let first := (declaration.reconcile comment site sink).1
    (first.reconcile comment site laterSink).1 = first ∧
      ((declaration.reconcile comment site ([] : List Finding)).2 =
          (declaration.findingBlocks comment site).flatten ∧
        (first.reconcile comment site ([] : List Finding)).2 =
          (first.findingBlocks comment site).flatten ∧
        (first.findingBlocks comment site).map (List.map Finding.outline) =
          (declaration.findingBlocks comment site).map (fun block =>
            (block.filter Finding.isVariadicMismatch).map Finding.outline) ∧
        ∀ finding ∈ (first.reconcile comment site ([] : List Finding)).2,
          finding.code ≠ Issue.typeMismatchDefault.code) ∧
      ∀ (other : Comment) (otherSite : Span) (offset : Nat) (settled : Parameter),
        first.parameters[offset]? = some settled → settled.type ≠ ∅ →
        (first.reconcile other otherSite laterSink).1.parameters[offset]? =
          some settled := by
  intro first
  have isMerged : first = declaration.merged comment := by
    simp only [first, reconcile_eq]
  rw [isMerged]
  refine ⟨?_, ⟨told_reconcile _ _ _, told_reconcile _ _ _, ?_, ?_⟩, ?_⟩
  · rw [reconcile_eq, merged_merged]
  · exact declaration.outline_findingBlocks_merged comment site
  · intro finding inSecond
    rw [told_reconcile] at inSecond
    exact not_default_of_mem_findingBlocks_merged inSecond
  · intro other otherSite offset settled atOffset typed
    rw [reconcile_eq]
    exact getElem?_parameters_merged_of_typed atOffset typed other

end Declaration

end ParamTypes
