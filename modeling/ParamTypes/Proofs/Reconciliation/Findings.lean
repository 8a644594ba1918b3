import ParamTypes.Proofs.Reconciliation.Pass
import ParamTypes.Proofs.UnionType.Casts

/-!
What a pass reports: for every parameter in turn at most a variadic mismatch
and then at most a default mismatch.
-/

namespace ParamTypes

namespace Parameter

/-! ## Findings of one parameter -/

theorem length_variadicFindings_le (parameter : Parameter)
    (documented? : Option DocParameter) (site : Span) :
    (parameter.variadicFindings documented? site).length ≤ 1 := by
  unfold variadicFindings
  split
  · exact Nat.zero_le 1
  · split <;> simp

theorem length_defaultFindings_le (parameter : Parameter) (known : UnionType)
    (site : Span) : (parameter.defaultFindings known site).length ≤ 1 := by
  unfold defaultFindings
  split
  · exact Nat.zero_le 1
  · split <;> simp

theorem length_findings_le (parameter : Parameter) (documented? : Option DocParameter)
    (site : Span) : (parameter.findings documented? site).length ≤ 2 := by
  have variadic := parameter.length_variadicFindings_le documented? site
  have default := parameter.length_defaultFindings_le
    (parameter.typeBeforeDefault documented?) site
  rw [findings, List.length_append]
  omega

theorem exists_of_mem_variadicFindings {parameter : Parameter}
    {documented? : Option DocParameter} {site : Span} {finding : Finding}
    (told : finding ∈ parameter.variadicFindings documented? site) :
    ∃ documented ∈ documented?, finding = parameter.variadicMismatch documented site := by
  cases documented? with
  | none => cases told
  | some documented =>
      rw [variadicFindings] at told
      split at told
      · cases told
      · exact ⟨documented, rfl, List.mem_singleton.mp told⟩

theorem exists_of_mem_defaultFindings {parameter : Parameter} {known : UnionType}
    {site : Span} {finding : Finding}
    (told : finding ∈ parameter.defaultFindings known site) :
    ∃ default ∈ parameter.defaultType,
      finding = Parameter.defaultMismatch { parameter with type := known } default site := by
  rw [defaultFindings] at told
  split at told
  · cases told
  · rename_i default given
    split at told
    · cases told
    · exact ⟨default, given, List.mem_singleton.mp told⟩

theorem variadic_of_mem_variadicFindings {parameter : Parameter}
    {documented? : Option DocParameter} {site : Span} {finding : Finding}
    (told : finding ∈ parameter.variadicFindings documented? site) :
    finding.site = site ∧
      (finding.code = Issue.typeMismatchVariadicParam.code ∨
        finding.code = Issue.typeMismatchVariadicComment.code) := by
  rcases exists_of_mem_variadicFindings told with ⟨documented, _, rfl⟩
  refine ⟨rfl, ?_⟩
  by_cases variadic : parameter.isVariadic <;> simp [variadicMismatch, variadic]

theorem default_of_mem_defaultFindings {parameter : Parameter} {known : UnionType}
    {site : Span} {finding : Finding}
    (told : finding ∈ parameter.defaultFindings known site) :
    finding.site = site ∧ finding.code = Issue.typeMismatchDefault.code := by
  rcases exists_of_mem_defaultFindings told with ⟨default, _, rfl⟩
  exact ⟨rfl, rfl⟩

theorem not_default_of_mem_variadicFindings {parameter : Parameter}
    {documented? : Option DocParameter} {site : Span} {finding : Finding}
    (told : finding ∈ parameter.variadicFindings documented? site) :
    finding.code ≠ Issue.typeMismatchDefault.code := by
  rcases (variadic_of_mem_variadicFindings told).2 with isParam | isComment
  · rw [isParam]
    decide
  · rw [isComment]
    decide

theorem site_of_mem_findings {parameter : Parameter} {documented? : Option DocParameter}
    {site : Span} {finding : Finding}
    (told : finding ∈ parameter.findings documented? site) : finding.site = site := by
  rcases List.mem_append.mp told with variadic | default
  · exact (variadic_of_mem_variadicFindings variadic).1
  · exact (default_of_mem_defaultFindings default).1

/-! ## Silent defaults -/

theorem defaultFindings_eq_nil_iff {parameter : Parameter} {known : UnionType} {site : Span} :
    parameter.defaultFindings known site = [] ↔
      ∀ default ∈ parameter.defaultType, default = .null ∨ default.castsTo known = true := by
  cases given : parameter.defaultType with
  | none => simp [defaultFindings, given]
  | some default => simp [defaultFindings, given, or_iff_not_imp_left]

theorem defaultFindings_eq_nil {parameter : Parameter} {known : UnionType}
    (silent : known = ∅ ∨ parameter.defaultType = some .null) (site : Span) :
    parameter.defaultFindings known site = [] := by
  apply defaultFindings_eq_nil_iff.mpr
  intro default given
  rcases silent with unknown | isNull
  · exact .inr (unknown ▸ UnionType.castsTo_empty default)
  · exact .inl (Option.some.inj ((Option.mem_def.mp given).symm.trans isNull))

theorem typeBeforeDefault_eq_empty {parameter : Parameter}
    {documented? : Option DocParameter} (undeclared : parameter.type = ∅)
    (undocumented : ∀ documented ∈ documented?, documented.type = ∅) :
    parameter.typeBeforeDefault documented? = ∅ := by
  rw [typeBeforeDefault, undeclared, UnionType.beforeDefault_empty]
  cases documented? with
  | none => rfl
  | some documented => exact undocumented documented rfl

theorem findings_of_silent {parameter : Parameter} {documented? : Option DocParameter}
    (silent :
      (parameter.type = ∅ ∧ ∀ documented ∈ documented?, documented.type = ∅) ∨
        parameter.defaultType = some .null)
    (site : Span) :
    parameter.findings documented? site = parameter.variadicFindings documented? site := by
  have noDefault :
      parameter.defaultFindings (parameter.typeBeforeDefault documented?) site = [] := by
    apply defaultFindings_eq_nil
    rcases silent with ⟨undeclared, undocumented⟩ | isNull
    · exact .inl (typeBeforeDefault_eq_empty undeclared undocumented)
    · exact .inr isNull
  rw [findings, noDefault, List.append_nil]

end Parameter

/-! ## Findings of a pass -/

namespace Declaration

theorem findingBlocks_eq_nil {declaration : Declaration}
    (trusted : declaration.isInternal = true) (comment : Comment) (site : Span) :
    declaration.findingBlocks comment site = [] := by
  simp [findingBlocks, trusted]

theorem getElem?_findingBlocks {declaration : Declaration}
    (checked : declaration.isInternal = false) (comment : Comment) (site : Span)
    (offset : Nat) :
    (declaration.findingBlocks comment site)[offset]? =
      declaration.parameters[offset]?.map fun parameter =>
        parameter.findings (comment.parameterFor? parameter.name offset) site := by
  simp [findingBlocks, checked]

theorem exists_offset_of_mem_findingBlocks {declaration : Declaration} {comment : Comment}
    {site : Span} {block : List Finding}
    (member : block ∈ declaration.findingBlocks comment site) :
    ∃ (offset : Nat) (parameter : Parameter), declaration.parameters[offset]? = some parameter ∧
      block = parameter.findings (comment.parameterFor? parameter.name offset) site := by
  cases trusted : declaration.isInternal with
  | true =>
      rw [findingBlocks_eq_nil trusted] at member
      cases member
  | false =>
      rcases List.getElem?_of_mem member with ⟨offset, isBlock⟩
      rw [getElem?_findingBlocks trusted] at isBlock
      rcases Option.map_eq_some_iff.mp isBlock with ⟨parameter, atOffset, rfl⟩
      exact ⟨offset, parameter, atOffset, rfl⟩

theorem exists_of_mem_findingBlocks {declaration : Declaration} {comment : Comment}
    {site : Span} {block : List Finding}
    (member : block ∈ declaration.findingBlocks comment site) :
    ∃ parameter : Parameter, ∃ documented? : Option DocParameter,
      block = parameter.findings documented? site := by
  rcases exists_offset_of_mem_findingBlocks member with ⟨offset, parameter, _, rfl⟩
  exact ⟨parameter, _, rfl⟩

/-- A sink takes up the blocks of findings of all parameters, one parameter
after another. Internal declarations have none. A default mismatch is never
about a parameter of unknown type or one whose default is null. -/
theorem findings_reconcile [Sink σ] (declaration : Declaration) (comment : Comment)
    (site : Span) (sink : σ) :
    (declaration.reconcile comment site sink).2 =
        (declaration.findingBlocks comment site).flatten.foldl emit sink ∧
      (declaration.reconcile comment site ([] : List Finding)).2 =
        (declaration.findingBlocks comment site).flatten ∧
      (declaration.isInternal = true →
        (declaration.reconcile comment site ([] : List Finding)).2 = []) ∧
      (declaration.isInternal = false →
        ∀ (offset : Nat),
          (declaration.findingBlocks comment site)[offset]? =
            declaration.parameters[offset]?.map fun parameter =>
              parameter.findings (comment.parameterFor? parameter.name offset) site) ∧
      (∀ block ∈ declaration.findingBlocks comment site,
        block.length ≤ 2 ∧ ∀ finding ∈ block, finding.site = site) ∧
      ∀ (offset : Nat) (parameter : Parameter),
        declaration.parameters[offset]? = some parameter →
        (parameter.type = ∅ ∧
            ∀ documented ∈ comment.parameterFor? parameter.name offset,
              documented.type = ∅) ∨
          parameter.defaultType = some .null →
        ∀ block, (declaration.findingBlocks comment site)[offset]? = some block →
          ∀ finding ∈ block, finding.code ≠ Issue.typeMismatchDefault.code := by
  refine ⟨?_, ?_, ?_, fun checked => getElem?_findingBlocks checked comment site, ?_, ?_⟩
  · rw [reconcile_eq]
  · exact declaration.told_reconcile comment site
  · intro trusted
    rw [reconcile_of_isInternal trusted]
  · intro block member
    rcases exists_of_mem_findingBlocks member with ⟨parameter, documented?, rfl⟩
    exact ⟨parameter.length_findings_le documented? site,
      fun _ told => Parameter.site_of_mem_findings told⟩
  · intro offset parameter atOffset silent block isBlock finding told
    cases trusted : declaration.isInternal with
    | true =>
        rw [findingBlocks_eq_nil trusted, List.getElem?_nil] at isBlock
        cases isBlock
    | false =>
        rw [getElem?_findingBlocks trusted, atOffset, Option.map_some,
          Parameter.findings_of_silent silent] at isBlock
        rw [← Option.some.inj isBlock] at told
        exact Parameter.not_default_of_mem_variadicFindings told

end Declaration

end ParamTypes
