import ParamTypes.Proofs.UnionType.Equality
import ParamTypes.Reconciliation

/-!
A pass of reconciliation without its threads: what becomes of each parameter,
and what is reported about it, as functions of the parameter and of the one
entry of the comment that speaks about it.

A whole pass is the two of them at every offset (`Declaration.reconcile_eq`).
The sink takes part in neither.
-/

namespace ParamTypes

/-! ## Types -/

namespace UnionType

/-- What is known of a type before the default value is looked at. -/
def beforeDefault (declared : UnionType) (documented? : Option UnionType) : UnionType :=
  if declared.isEmpty then documented?.getD ∅ else declared

/-- A type that has taken up a default value. -/
def withDefault (known default : UnionType) : UnionType :=
  if default = null then
    if known.isEmpty then ∅ else known ∪ null
  else
    (if known.isEmpty then any else known) ∪ default

def merged (declared : UnionType) (documented? default? : Option UnionType) : UnionType :=
  match default? with
  | none => declared.beforeDefault documented?
  | some default => (declared.beforeDefault documented?).withDefault default

@[simp] theorem beforeDefault_empty (documented? : Option UnionType) :
    beforeDefault ∅ documented? = documented?.getD ∅ := rfl

theorem beforeDefault_of_ne_empty {declared : UnionType} (typed : declared ≠ ∅)
    (documented? : Option UnionType) :
    declared.beforeDefault documented? = declared := by
  simp [beforeDefault, typed]

@[simp] theorem beforeDefault_none (declared : UnionType) :
    declared.beforeDefault none = declared := by
  by_cases untyped : declared = ∅
  · rw [untyped, beforeDefault_empty, Option.getD_none]
  · exact beforeDefault_of_ne_empty untyped none

end UnionType

/-! ## Findings -/

theorem foldl_emit_list (findings told : List Finding) :
    findings.foldl emit told = told ++ findings := by
  induction findings generalizing told with
  | nil => simp
  | cons finding findings induction => simp [induction]

namespace Parameter

/-! ## One parameter -/

def typeBeforeDefault (parameter : Parameter) (documented? : Option DocParameter) :
    UnionType :=
  parameter.type.beforeDefault (documented?.map DocParameter.type)

theorem typeBeforeDefault_of_typed {parameter : Parameter} (typed : parameter.type ≠ ∅)
    (documented? : Option DocParameter) :
    parameter.typeBeforeDefault documented? = parameter.type :=
  UnionType.beforeDefault_of_ne_empty typed _

def merged (parameter : Parameter) (documented? : Option DocParameter) : Parameter :=
  { parameter with
    type := parameter.type.merged (documented?.map DocParameter.type) parameter.defaultType }

/-- A comment that disagrees on whether the parameter is variadic. The
parameter is written as it was declared. -/
def variadicFindings (parameter : Parameter) (documented? : Option DocParameter)
    (site : Span) : List Finding :=
  match documented? with
  | none => []
  | some documented =>
      if documented.isVariadic = parameter.isVariadic then
        []
      else
        [{ code :=
             if parameter.isVariadic then
               Issue.typeMismatchVariadicParam.code
             else
               Issue.typeMismatchVariadicComment.code
           site
           arguments := [.text documented.text, .text parameter.text] }]

def defaultFindings (parameter : Parameter) (known : UnionType) (site : Span) :
    List Finding :=
  match parameter.defaultType with
  | none => []
  | some default =>
      if default = .null ∨ default.castsTo known then
        []
      else
        [{ code := Issue.typeMismatchDefault.code
           site
           arguments := [.type known, .text parameter.name, .type default] }]

def findings (parameter : Parameter) (documented? : Option DocParameter) (site : Span) :
    List Finding :=
  parameter.variadicFindings documented? site ++
    parameter.defaultFindings (parameter.typeBeforeDefault documented?) site

theorem variadicFindings_of_eq {parameter : Parameter} {documented : DocParameter}
    (same : documented.isVariadic = parameter.isVariadic) (site : Span) :
    parameter.variadicFindings (some documented) site = [] :=
  if_pos same

theorem variadicFindings_of_ne {parameter : Parameter} {documented : DocParameter}
    (different : documented.isVariadic ≠ parameter.isVariadic) (site : Span) :
    parameter.variadicFindings (some documented) site =
      [parameter.variadicMismatch documented site] :=
  if_neg different

variable [Sink σ]

theorem mergeDocumented_eq (parameter : Parameter) (documented : DocParameter)
    (site : Span) (sink : σ) :
    parameter.mergeDocumented documented site sink =
      ({ parameter with type := parameter.typeBeforeDefault (some documented) },
        (parameter.variadicFindings (some documented) site).foldl emit sink) := by
  have told :
      (if parameter.isVariadic == documented.isVariadic then sink
        else emit sink (parameter.variadicMismatch documented site)) =
      (parameter.variadicFindings (some documented) site).foldl emit sink := by
    by_cases same : documented.isVariadic = parameter.isVariadic
    · simp [variadicFindings_of_eq same, same]
    · simp [variadicFindings_of_ne same, Ne.symm same]
  rw [mergeDocumented, told]
  by_cases untyped : parameter.type = ∅
  · simp [typeBeforeDefault, untyped]
  · simp [typeBeforeDefault, untyped, UnionType.beforeDefault_of_ne_empty untyped]

theorem mergeDefault_eq {parameter : Parameter} {default : UnionType}
    (given : parameter.defaultType = some default) (site : Span) (sink : σ) :
    parameter.mergeDefault default site sink =
      ({ parameter with type := parameter.type.withDefault default },
        (parameter.defaultFindings parameter.type site).foldl emit sink) := by
  by_cases isNull : default = .null
  · have taken : parameter.type.insert (.keyword .null) = parameter.type ∪ .null := rfl
    have silent : parameter.defaultFindings parameter.type site = [] := by
      simp [defaultFindings, given, isNull]
    by_cases untyped : parameter.type = ∅
    · have kept : parameter.type.withDefault default = parameter.type := by
        simp [UnionType.withDefault, isNull, untyped]
      rw [mergeDefault, if_pos (UnionType.isExactly_null_iff.mpr isNull),
        if_pos (OrderedSet.isEmpty_iff.mpr untyped), kept, silent, List.foldl_nil]
    · simp [mergeDefault, UnionType.isExactly_null_iff, UnionType.withDefault, silent,
        isNull, untyped, taken]
  · by_cases fits : default.castsTo parameter.type <;>
      simp [mergeDefault, UnionType.isExactly_null_iff, UnionType.withDefault,
        defaultFindings, defaultMismatch, given, isNull, fits]

theorem reconcile_eq (parameter : Parameter) (offset : Nat) (comment : Comment)
    (site : Span) (sink : σ) :
    parameter.reconcile offset comment site sink =
      (parameter.merged (comment.parameterFor? parameter.name offset),
        (parameter.findings (comment.parameterFor? parameter.name offset) site).foldl
          emit sink) := by
  rw [reconcile]
  generalize comment.parameterFor? parameter.name offset = documented?
  let heard : Parameter := { parameter with type := parameter.typeBeforeDefault documented? }
  let told := (parameter.variadicFindings documented? site).foldl emit sink
  have undefaulted : heard.defaultType = none →
      (heard, told) =
        (parameter.merged documented?,
          (parameter.findings documented? site).foldl emit sink) := by
    intro hasNone
    have given : parameter.defaultType = none := hasNone
    rw [findings, List.foldl_append]
    simp [heard, told, merged, UnionType.merged, typeBeforeDefault, defaultFindings, given]
  have defaulted : ∀ default, heard.defaultType = some default →
      heard.mergeDefault default site told =
        (parameter.merged documented?,
          (parameter.findings documented? site).foldl emit sink) := by
    intro default given
    have same : parameter.defaultType = some default := given
    rw [findings, List.foldl_append, mergeDefault_eq given]
    simp [heard, told, merged, UnionType.merged, typeBeforeDefault, defaultFindings, same]
  cases documented? with
  | none =>
      have unheard : heard = parameter := by simp [heard, typeBeforeDefault]
      rw [unheard] at undefaulted defaulted
      dsimp only
      split
      · exact defaulted _ ‹_›
      · exact undefaulted ‹_›
  | some documented =>
      simp only [mergeDocumented_eq]
      split
      · exact defaulted _ ‹_›
      · exact undefaulted ‹_›

/-! ## Lists of parameters -/

theorem reconcileFrom_eq (comment : Comment) (site : Span) (offset : Nat)
    (parameters : List Parameter) (sink : σ) :
    reconcileFrom comment site offset parameters sink =
      (parameters.mapIdx fun position parameter =>
          parameter.merged (comment.parameterFor? parameter.name (offset + position)),
        (parameters.mapIdx fun position parameter =>
          parameter.findings (comment.parameterFor? parameter.name (offset + position))
            site).flatten.foldl emit sink) := by
  induction parameters generalizing offset sink with
  | nil => rfl
  | cons parameter parameters induction =>
      simp only [reconcileFrom, reconcile_eq, induction, List.mapIdx_cons, Nat.add_zero,
        List.flatten_cons, List.foldl_append]
      simp only [Nat.add_assoc, Nat.add_comm 1]

end Parameter

namespace Declaration

/-! ## Declarations -/

def merged (declaration : Declaration) (comment : Comment) : Declaration :=
  if declaration.isInternal then
    declaration
  else
    declaration.setParameters (declaration.parameters.mapIdx fun offset parameter =>
      parameter.merged (comment.parameterFor? parameter.name offset))

def findingBlocks (declaration : Declaration) (comment : Comment) (site : Span) :
    List (List Finding) :=
  if declaration.isInternal then
    []
  else
    declaration.parameters.mapIdx fun offset parameter =>
      parameter.findings (comment.parameterFor? parameter.name offset) site

/-- A pass settles every parameter by itself and hands the findings over in the
order of the parameters. -/
theorem reconcile_eq [Sink σ] (declaration : Declaration) (comment : Comment)
    (site : Span) (sink : σ) :
    declaration.reconcile comment site sink =
      (declaration.merged comment,
        (declaration.findingBlocks comment site).flatten.foldl emit sink) := by
  by_cases trusted : declaration.isInternal
  · simp [trusted, merged, findingBlocks]
  · simp [reconcile, trusted, merged, findingBlocks, Parameter.reconcileFrom_eq]

theorem told_reconcile (declaration : Declaration) (comment : Comment) (site : Span) :
    (declaration.reconcile comment site ([] : List Finding)).2 =
      (declaration.findingBlocks comment site).flatten := by
  rw [reconcile_eq, foldl_emit_list, List.nil_append]

theorem merged_of_isInternal {declaration : Declaration}
    (trusted : declaration.isInternal = true) (comment : Comment) :
    declaration.merged comment = declaration := by
  simp [merged, trusted]

@[simp] theorem isInternal_merged (declaration : Declaration) (comment : Comment) :
    (declaration.merged comment).isInternal = declaration.isInternal := by
  by_cases trusted : declaration.isInternal
  · simp [merged, trusted]
  · simp [merged, trusted, setParameters, modifyParameterList]

theorem parameters_merged {declaration : Declaration}
    (checked : declaration.isInternal = false) (comment : Comment) :
    (declaration.merged comment).parameters =
      declaration.parameters.mapIdx fun offset parameter =>
        parameter.merged (comment.parameterFor? parameter.name offset) := by
  simp [merged, checked]

theorem getElem?_parameters_merged {declaration : Declaration}
    (checked : declaration.isInternal = false) (comment : Comment) (offset : Nat) :
    (declaration.merged comment).parameters[offset]? =
      declaration.parameters[offset]?.map fun parameter =>
        parameter.merged (comment.parameterFor? parameter.name offset) := by
  rw [parameters_merged checked, List.getElem?_mapIdx]

theorem length_parameters_merged {declaration : Declaration}
    (checked : declaration.isInternal = false) (comment : Comment) :
    (declaration.merged comment).parameters.length = declaration.parameters.length := by
  rw [parameters_merged checked, List.length_mapIdx]

end Declaration

end ParamTypes
