import ParamTypes.Proofs.Comment.Lookup
import ParamTypes.Proofs.Reconciliation.Findings
import ParamTypes.Proofs.Related
import ParamTypes.Proofs.Signature.Equivalence

/-!
Passes over types that are written in another order of their atoms. Two such passes
take the same way: every question that is asked on it has the same answer, and what
they make of types has the same atoms again. Only texts can tell them apart.
-/

namespace ParamTypes

/-! ## Types -/

namespace OrderedSet.Reordered

variable {declared otherDeclared known otherKnown default otherDefault : UnionType}
  {documented? otherDocumented? default? otherDefault? : Option UnionType}

theorem eq_null_iff (reordered : known.Reordered otherKnown) :
    known = .null ↔ otherKnown = .null := by
  rw [← UnionType.isExactly_null_iff, ← UnionType.isExactly_null_iff, reordered.isExactly_eq]

theorem beforeDefault (reordered : declared.Reordered otherDeclared)
    (documented : Option.Rel OrderedSet.Reordered documented? otherDocumented?) :
    (declared.beforeDefault documented?).Reordered
      (otherDeclared.beforeDefault otherDocumented?) := by
  rw [UnionType.beforeDefault, UnionType.beforeDefault, reordered.isEmpty_eq]
  split
  · cases documented with
    | some documented => exact documented
    | none => exact .refl ∅
  · exact reordered

theorem withDefault (reordered : known.Reordered otherKnown)
    (defaults : default.Reordered otherDefault) :
    (known.withDefault default).Reordered (otherKnown.withDefault otherDefault) := by
  simp only [UnionType.withDefault, defaults.eq_null_iff, reordered.isEmpty_eq]
  split
  · split
    · exact .refl ∅
    · exact reordered.union (.refl UnionType.null)
  · split
    · exact Reordered.union (.refl UnionType.any) defaults
    · exact reordered.union defaults

theorem merged (reordered : declared.Reordered otherDeclared)
    (documented : Option.Rel OrderedSet.Reordered documented? otherDocumented?)
    (defaults : Option.Rel OrderedSet.Reordered default? otherDefault?) :
    (declared.merged documented? default?).Reordered
      (otherDeclared.merged otherDocumented? otherDefault?) := by
  have before := reordered.beforeDefault documented
  cases defaults with
  | none => exact before
  | some defaults => exact before.withDefault defaults

end OrderedSet.Reordered

/-! ## Entries -/

structure DocParameter.Reordered (first second : DocParameter) : Prop where
  name_eq : first.name = second.name
  isVariadic_eq : first.isVariadic = second.isVariadic
  type_reordered : first.type.Reordered second.type

theorem DocParameter.rel_type {first second : Option DocParameter}
    (documented : Option.Rel DocParameter.Reordered first second) :
    Option.Rel OrderedSet.Reordered (first.map DocParameter.type)
      (second.map DocParameter.type) :=
  rel_map (fun _ _ entries => entries.type_reordered) documented

/-! ## Findings -/

/-- Arguments of a message that speak of types with the same atoms: types, the written
forms of two parameters that are alike but for the order of atoms, and equal texts. -/
inductive Finding.Argument.Reordered : (first second : Finding.Argument) → Prop
  | type {first second : UnionType} (reordered : first.Reordered second) :
      Reordered (.type first) (.type second)
  | declarator {first second : UnionType} (reordered : first.Reordered second)
      (isVariadic : Bool) (name : String) :
      Reordered (.text (declarator first isVariadic name))
        (.text (declarator second isVariadic name))
  | text (value : String) : Reordered (.text value) (.text value)

structure Finding.Reordered (first second : Finding) : Prop where
  code_eq : first.code = second.code
  site_eq : first.site = second.site
  arguments_reordered :
    List.Forall₂ Finding.Argument.Reordered first.arguments second.arguments

theorem DocParameter.Reordered.text {first second : DocParameter}
    (reordered : first.Reordered second) :
    Finding.Argument.Reordered (.text first.text) (.text second.text) := by
  rw [DocParameter.text, DocParameter.text, reordered.name_eq, reordered.isVariadic_eq]
  exact .declarator reordered.type_reordered _ _

/-! ## Parameters -/

namespace Parameter.Reordered

variable {first second : Parameter} {documented? otherDocumented? : Option DocParameter}

theorem typeBeforeDefault (reordered : first.Reordered second)
    (documented : Option.Rel DocParameter.Reordered documented? otherDocumented?) :
    (first.typeBeforeDefault documented?).Reordered
      (second.typeBeforeDefault otherDocumented?) :=
  reordered.type_reordered.beforeDefault (DocParameter.rel_type documented)

theorem merged (reordered : first.Reordered second)
    (documented : Option.Rel DocParameter.Reordered documented? otherDocumented?) :
    (first.merged documented?).Reordered (second.merged otherDocumented?) where
  name_eq := reordered.name_eq
  isVariadic_eq := reordered.isVariadic_eq
  type_reordered := reordered.type_reordered.merged (DocParameter.rel_type documented)
    reordered.defaultType_reordered
  defaultType_reordered := reordered.defaultType_reordered

theorem text (reordered : first.Reordered second) :
    Finding.Argument.Reordered (.text first.text) (.text second.text) := by
  rw [Parameter.text, Parameter.text, reordered.name_eq, reordered.isVariadic_eq]
  exact .declarator reordered.type_reordered _ _

theorem variadicFindings (reordered : first.Reordered second)
    (documented : Option.Rel DocParameter.Reordered documented? otherDocumented?)
    (site : Span) :
    List.Forall₂ Finding.Reordered (first.variadicFindings documented? site)
      (second.variadicFindings otherDocumented? site) := by
  cases documented with
  | none => exact .nil
  | @some entry otherEntry entries =>
      by_cases same : entry.isVariadic = first.isVariadic
      · have alsoSame : otherEntry.isVariadic = second.isVariadic :=
          entries.isVariadic_eq ▸ reordered.isVariadic_eq ▸ same
        rw [variadicFindings_of_eq same, variadicFindings_of_eq alsoSame]
        exact .nil
      · have differs : otherEntry.isVariadic ≠ second.isVariadic :=
          entries.isVariadic_eq ▸ reordered.isVariadic_eq ▸ same
        rw [variadicFindings_of_ne same, variadicFindings_of_ne differs]
        refine .cons ⟨?_, rfl, .cons entries.text (.cons reordered.text .nil)⟩ .nil
        rw [variadicMismatch, variadicMismatch, reordered.isVariadic_eq]

theorem defaultFindings (reordered : first.Reordered second) {known otherKnown : UnionType}
    (knownReordered : known.Reordered otherKnown) (site : Span) :
    List.Forall₂ Finding.Reordered (first.defaultFindings known site)
      (second.defaultFindings otherKnown site) := by
  have defaults := reordered.defaultType_reordered
  rw [Parameter.defaultFindings, Parameter.defaultFindings, reordered.name_eq]
  -- Related defaults are both there or both missing.
  generalize first.defaultType = default?, second.defaultType = otherDefault? at defaults ⊢
  cases defaults with
  | none => exact .nil
  | some default =>
      simp only [default.eq_null_iff, default.castsTo_eq knownReordered]
      split
      · exact .nil
      · exact .cons ⟨rfl, rfl, .cons (.type knownReordered) (.cons (.text _)
          (.cons (.type default) .nil))⟩ .nil

theorem findings (reordered : first.Reordered second)
    (documented : Option.Rel DocParameter.Reordered documented? otherDocumented?)
    (site : Span) :
    List.Forall₂ Finding.Reordered (first.findings documented? site)
      (second.findings otherDocumented? site) :=
  List.rel_append (reordered.variadicFindings documented site)
    (reordered.defaultFindings (reordered.typeBeforeDefault documented) site)

end Parameter.Reordered

/-! ## Comments -/

theorem Comment.rel_parameterFor? {first second : Comment}
    (entries : List.Forall₂ DocParameter.Reordered first.parameters second.parameters)
    (name : String) (offset : Nat) :
    Option.Rel DocParameter.Reordered (first.parameterFor? name offset)
      (second.parameterFor? name offset) := by
  have byName : Option.Rel DocParameter.Reordered (first.firstOfName? name)
      (second.firstOfName? name) := by
    rw [firstOfName?, firstOfName?]
    split
    · exact .none
    · exact rel_find? (fun _ _ alike => by rw [alike.name_eq]) entries
  have byPosition : Option.Rel DocParameter.Reordered (first.named? offset)
      (second.named? offset) :=
    rel_filter (fun _ _ alike => by rw [alike.name_eq]) (rel_getElem? entries offset)
  rw [parameterFor?_eq, parameterFor?_eq]
  exact rel_or byName byPosition

/-! ## Declarations -/

structure Declaration.Reordered (first second : Declaration) : Prop where
  name_eq : first.name = second.name
  kind_eq : first.kind = second.kind
  isInternal_eq : first.isInternal = second.isInternal
  flags_eq : first.signature.flags = second.signature.flags
  list_reordered : first.signature.parameters.Reordered second.signature.parameters

namespace Declaration.Reordered

variable {first second : Declaration} {comment otherComment : Comment}

theorem setParameters (reordered : first.Reordered second)
    {parameters otherParameters : List Parameter}
    (parametersReordered : List.Forall₂ Parameter.Reordered parameters otherParameters) :
    (first.setParameters parameters).Reordered (second.setParameters otherParameters) where
  name_eq := reordered.name_eq
  kind_eq := reordered.kind_eq
  isInternal_eq := reordered.isInternal_eq
  flags_eq := reordered.flags_eq
  list_reordered :=
    ⟨reordered.list_reordered.required_eq, reordered.list_reordered.optional_eq,
      parametersReordered⟩

theorem merged (reordered : first.Reordered second)
    (entries : List.Forall₂ DocParameter.Reordered comment.parameters otherComment.parameters) :
    (first.merged comment).Reordered (second.merged otherComment) := by
  rw [Declaration.merged, Declaration.merged, reordered.isInternal_eq]
  split
  · exact reordered
  · apply reordered.setParameters
    refine forall₂_mapIdx ?_ reordered.list_reordered.parameters_reordered
    intro offset left right alike
    rw [alike.name_eq]
    exact alike.merged (Comment.rel_parameterFor? entries right.name offset)

theorem findingBlocks (reordered : first.Reordered second)
    (entries : List.Forall₂ DocParameter.Reordered comment.parameters otherComment.parameters)
    (site : Span) :
    List.Forall₂ (List.Forall₂ Finding.Reordered) (first.findingBlocks comment site)
      (second.findingBlocks otherComment site) := by
  rw [Declaration.findingBlocks, Declaration.findingBlocks, reordered.isInternal_eq]
  split
  · exact .nil
  · refine forall₂_mapIdx ?_ reordered.list_reordered.parameters_reordered
    intro offset left right alike
    rw [alike.name_eq]
    exact alike.findings (Comment.rel_parameterFor? entries right.name offset) site

end Declaration.Reordered

namespace Declaration

/-- If the types of two declarations and of two comments have the same atoms, each in
an order of its own, then two passes make of them types that have the same atoms, and
all else of the declarations stays alike. The passes report the same issues one by
one, at the same places and about the same types. -/
theorem reordered_reconcile [Sink σ] [Sink τ] {first second : Declaration}
    {comment otherComment : Comment} (reordered : first.Reordered second)
    (entries : List.Forall₂ DocParameter.Reordered comment.parameters otherComment.parameters)
    (site : Span) (sink : σ) (otherSink : τ) :
    let told := (first.reconcile comment site ([] : List Finding)).2
    let otherTold := (second.reconcile otherComment site ([] : List Finding)).2
    (first.reconcile comment site sink).1.Reordered
        (second.reconcile otherComment site otherSink).1 ∧
      List.Forall₂ Finding.Reordered told otherTold ∧
      (first.reconcile comment site sink).2 = told.foldl emit sink ∧
      (second.reconcile otherComment site otherSink).2 = otherTold.foldl emit otherSink := by
  intro told otherTold
  have isTold : told = (first.findingBlocks comment site).flatten :=
    first.told_reconcile comment site
  have isOtherTold : otherTold = (second.findingBlocks otherComment site).flatten :=
    second.told_reconcile otherComment site
  refine ⟨?_, ?_, ?_, ?_⟩
  · rw [reconcile_eq, reconcile_eq]
    exact reordered.merged entries
  · rw [isTold, isOtherTold]
    exact List.rel_flatten (reordered.findingBlocks entries site)
  · rw [reconcile_eq, isTold]
  · rw [reconcile_eq, isOtherTold]

theorem reordered_reconcile_of_exchanged :
    let numbers : UnionType := .ofList [.keyword .int, .keyword .float]
    let otherNumbers : UnionType := .ofList [.keyword .float, .keyword .int]
    let words : UnionType := .ofList [.keyword .string, .keyword .null]
    let otherWords : UnionType := .ofList [.keyword .null, .keyword .string]
    let first : Declaration :=
      { name := "f"
        signature.parameters.parameters :=
          [⟨"x", ∅, false, some words⟩, ⟨"y", words, true, none⟩] }
    let second : Declaration :=
      { name := "f"
        signature.parameters.parameters :=
          [⟨"x", ∅, false, some otherWords⟩, ⟨"y", otherWords, true, none⟩] }
    let comment := Comment.ofParameters [⟨"x", numbers, false⟩, ⟨"y", ∅, false⟩]
    let otherComment := Comment.ofParameters [⟨"x", otherNumbers, false⟩, ⟨"y", ∅, false⟩]
    let site := Span.ofLine "a.src" 3
    let told := (first.reconcile comment site ([] : List Finding)).2
    let otherTold := (second.reconcile otherComment site ([] : List Finding)).2
    first.Reordered second ∧
      List.Forall₂ DocParameter.Reordered comment.parameters otherComment.parameters ∧
      (first.reconcile comment site ([] : List Finding)).1.Reordered
        (second.reconcile otherComment site ([] : List Finding)).1 ∧
      List.Forall₂ Finding.Reordered told otherTold ∧
      told.map Finding.code =
        [Issue.typeMismatchDefault.code, Issue.typeMismatchVariadicParam.code] ∧
      told.map Finding.arguments ≠ otherTold.map Finding.arguments := by
  intro numbers otherNumbers words otherWords first second comment otherComment site told otherTold
  have numbersReordered : numbers.Reordered otherNumbers := List.Perm.swap _ _ _
  have wordsReordered : words.Reordered otherWords := List.Perm.swap _ _ _
  have reordered : first.Reordered second :=
    ⟨rfl, rfl, rfl, rfl, rfl, rfl,
      .cons ⟨rfl, rfl, .refl ∅, .some wordsReordered⟩
        (.cons ⟨rfl, rfl, wordsReordered, .none⟩ .nil)⟩
  have entries :
      List.Forall₂ DocParameter.Reordered comment.parameters otherComment.parameters :=
    .cons ⟨rfl, rfl, numbersReordered⟩ (.cons ⟨rfl, rfl, .refl ∅⟩ .nil)
  have passes := reordered_reconcile reordered entries site ([] : List Finding) ([] : List Finding)
  exact ⟨reordered, entries, passes.1, passes.2.1, by decide, by decide⟩

end Declaration

end ParamTypes
