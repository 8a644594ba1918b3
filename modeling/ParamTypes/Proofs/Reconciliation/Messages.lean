import ParamTypes.Proofs.Comment.WellFormed
import ParamTypes.Proofs.Diagnostic.Template
import ParamTypes.Proofs.Reconciliation.Findings

/-!
The messages of reconciliation come out complete: code, template and arguments agree wherever
a finding is made, and nothing that a comment can say brings a brace into them. Braces in the
names of a declaration would come through, so these are excluded.
-/

namespace ParamTypes

open Text

/-! ## Texts without braces -/

namespace Text

def braces : List Char :=
  ['\x7b', '\x7d']

def IsBraceless (text : List Char) : Prop :=
  ∀ brace ∈ braces, brace ∉ text

instance (text : List Char) : Decidable (IsBraceless text) :=
  List.decidableBAll (fun brace => brace ∉ text) braces

namespace IsBraceless

theorem append {first second : List Char} (before : IsBraceless first)
    (behind : IsBraceless second) : IsBraceless (first ++ second) := by
  intro brace isBrace
  rw [List.mem_append, not_or]
  exact ⟨before brace isBrace, behind brace isBrace⟩

theorem intercalate {separator : List Char} {pieces : List (List Char)}
    (between : IsBraceless separator) (each : ∀ piece ∈ pieces, IsBraceless piece) :
    IsBraceless (separator.intercalate pieces) := by
  intro brace isBrace member
  rcases TypeExpr.mem_intercalate member with inSeparator | ⟨piece, isPiece, inPiece⟩
  · exact between brace isBrace inSeparator
  · exact each piece isPiece brace isBrace inPiece

theorem of_isIdentifier {name : List Char} (identifier : isIdentifier name = true) :
    IsBraceless name := by
  have marks : braces ⊆ punctuation := by decide
  exact fun brace isBrace => not_mem_of_isIdentifier identifier (marks isBrace)

end IsBraceless

end Text

/-! ## Types and parameters -/

theorem IsBareClassName.isBraceless {className : String} (proper : IsBareClassName className) :
    IsBraceless className.toList := by
  have parts : ['\\'].intercalate (className.toList.splitOn '\\') = className.toList :=
    List.intercalate_splitOn '\\'
  rw [← parts]
  apply IsBraceless.intercalate (by decide)
  exact fun segment member => .of_isIdentifier (proper.identifiers segment member)

namespace UnionType

def IsBraceless (type : UnionType) : Prop :=
  ∀ className, .named className ∈ type → Text.IsBraceless className.toList

variable {type : UnionType}

theorem IsWellFormed.isBraceless (wellFormed : type.IsWellFormed) : type.IsBraceless :=
  fun className member => (wellFormed.classNames className member).isBraceless

theorem IsBraceless.text (braceless : type.IsBraceless) :
    Text.IsBraceless type.text.toList := by
  rw [UnionType.text, String.toList_intercalate, List.map_map]
  apply Text.IsBraceless.intercalate (by decide)
  intro piece member
  rcases List.mem_map.mp member with ⟨atom, isAtom, rfl⟩
  cases atom with
  | named className => exact braceless className isAtom
  | keyword word => cases word <;> decide

theorem IsBraceless.beforeDefault {documented? : Option UnionType} (declared : type.IsBraceless)
    (documented : ∀ other ∈ documented?, other.IsBraceless) :
    (type.beforeDefault documented?).IsBraceless := by
  rw [UnionType.beforeDefault]
  split
  · cases documented? with
    | none => exact fun className member => absurd member (OrderedSet.not_mem_empty _)
    | some other => exact documented other rfl
  · exact declared

end UnionType

theorem isBraceless_declarator {type : UnionType} {name : String} (typed : type.IsBraceless)
    (named : IsBraceless name.toList) (isVariadic : Bool) :
    IsBraceless (declarator type isVariadic name).toList := by
  rw [declarator, String.toList_append, String.toList_append]
  refine (IsBraceless.append ?_ ?_).append named
  · split
    · decide
    · rw [String.toList_append]
      exact typed.text.append (by decide)
  · split <;> decide

theorem DocParameter.IsWellFormed.isBraceless_text {documented : DocParameter}
    (wellFormed : documented.IsWellFormed) : IsBraceless documented.text.toList := by
  apply isBraceless_declarator wellFormed.type.isBraceless
  rcases wellFormed.name with rfl | identifier
  · decide
  · exact .of_isIdentifier identifier

structure Parameter.IsBraceless (parameter : Parameter) : Prop where
  name : Text.IsBraceless parameter.name.toList
  type : parameter.type.IsBraceless
  defaultType : ∀ default ∈ parameter.defaultType, default.IsBraceless

theorem Parameter.IsBraceless.text {parameter : Parameter} (braceless : parameter.IsBraceless) :
    Text.IsBraceless parameter.text.toList :=
  isBraceless_declarator braceless.type braceless.name _

/-! ## Templates -/

namespace Template

theorem isBraceless_fillAtOnce {template : String} {arguments : List String}
    (braceless : IsBraceless (remainder template))
    (given : ∀ number ∈ slots template, number < arguments.length)
    (each : ∀ argument ∈ arguments, IsBraceless argument.toList) :
    IsBraceless (fillAtOnce template arguments).toList := by
  intro brace isBrace member
  rw [fillAtOnce, String.toList_ofList, List.mem_flatMap] at member
  rcases member with ⟨part, isPart, inPart⟩
  cases part with
  | text character =>
      rw [Part.filled, List.mem_singleton] at inPart
      rw [← inPart] at isPart
      exact braceless brace isBrace (mem_remainder.mpr isPart)
  | slot number =>
      have isGiven := given number (mem_slots.mpr isPart)
      rw [Part.filled, List.getElem?_eq_getElem isGiven] at inPart
      exact each _ (List.getElem_mem isGiven) brace isBrace inPart

end Template

open Template

namespace Issue

def arity : Issue → Nat
  | typeMismatchDefault => 3
  | typeMismatchVariadicComment | typeMismatchVariadicParam => 2

theorem slots_template (issue : Issue) : slots issue.template = List.range issue.arity := by
  cases issue <;> decide +kernel

theorem isBraceless_remainder (issue : Issue) : IsBraceless (remainder issue.template) := by
  cases issue <;> decide +kernel

theorem isClean_template (issue : Issue) : IsClean (parts issue.template.toList) := by
  rw [IsClean, ← mem_remainder]
  exact issue.isBraceless_remainder _ (by decide)

theorem mem_remainder_v (issue : Issue) : 'v' ∈ remainder issue.template := by
  cases issue <;> decide +kernel

end Issue

namespace Finding

/-- Whether the message of a finding is the one of its issue with all slots filled. -/
structure IsComplete (finding : Finding) (issue : Issue) : Prop where
  registered : finding.issue? = some issue
  slots : slots issue.template = List.range finding.arguments.length
  message : finding.message = fillAtOnce issue.template (finding.arguments.map Argument.render)
  braceless : IsBraceless finding.message.toList
  noSlot : ∀ number, ¬ slot number <:+: finding.message.toList
  notUnknown : finding.message ≠ "Unknown diagnostic"

theorem isComplete_of_arguments {finding : Finding} {issue : Issue}
    (isCode : finding.code = issue.code) (arity : finding.arguments.length = issue.arity)
    (each : ∀ argument ∈ finding.arguments, IsBraceless argument.render.toList) :
    finding.IsComplete issue := by
  have registered : finding.issue? = some issue := by
    rw [issue?, isCode, Issue.ofCode?_code]
  have slots := issue.slots_template
  rw [← arity] at slots
  have rendered : ∀ text ∈ finding.arguments.map Argument.render, IsBraceless text.toList := by
    intro text member
    rcases List.mem_map.mp member with ⟨argument, isArgument, rfl⟩
    exact each argument isArgument
  have message : finding.message =
      fillAtOnce issue.template (finding.arguments.map Argument.render) := by
    rw [Finding.message, template, registered, Option.map_some, Option.getD_some]
    apply fill_eq_fillAtOnce fun _ => issue.isClean_template
    exact fun text member => rendered text (List.dropLast_subset _ member) _ (by decide)
  have braceless : IsBraceless finding.message.toList := by
    rw [message]
    apply isBraceless_fillAtOnce issue.isBraceless_remainder _ rendered
    intro number isSlot
    rwa [slots, List.mem_range, ← List.length_map Argument.render] at isSlot
  refine ⟨registered, slots, message, braceless, ?_, ?_⟩
  · intro number inside
    exact braceless '\x7b' (by decide) (inside.subset List.mem_cons_self)
  · -- Every template says something about a variadic parameter or a value.
    intro unknown
    have inMessage := mem_fillAtOnce issue.mem_remainder_v (finding.arguments.map Argument.render)
    rw [← message, unknown] at inMessage
    exact absurd inMessage (by decide)

end Finding

/-! ## Findings of a pass -/

namespace Parameter

variable {parameter : Parameter} {documented? : Option DocParameter} {site : Span}
  {finding : Finding}

theorem isComplete_of_mem_variadicFindings (braceless : parameter.IsBraceless)
    (wellFormed : ∀ documented ∈ documented?, documented.IsWellFormed)
    (told : finding ∈ parameter.variadicFindings documented? site) :
    ∃ issue, finding.IsComplete issue := by
  rcases exists_of_mem_variadicFindings told with ⟨documented, isDocumented, rfl⟩
  have each : ∀ argument ∈ (parameter.variadicMismatch documented site).arguments,
      Text.IsBraceless argument.render.toList := by
    rw [variadicMismatch, List.forall_mem_cons, List.forall_mem_singleton]
    exact ⟨(wellFormed documented isDocumented).isBraceless_text, braceless.text⟩
  by_cases variadic : parameter.isVariadic
  · have isCode : (parameter.variadicMismatch documented site).code =
        Issue.typeMismatchVariadicParam.code := if_pos variadic
    exact ⟨_, Finding.isComplete_of_arguments isCode rfl each⟩
  · have isCode : (parameter.variadicMismatch documented site).code =
        Issue.typeMismatchVariadicComment.code := if_neg variadic
    exact ⟨_, Finding.isComplete_of_arguments isCode rfl each⟩

theorem isComplete_of_mem_defaultFindings {known : UnionType} (braceless : parameter.IsBraceless)
    (knownBraceless : known.IsBraceless)
    (told : finding ∈ parameter.defaultFindings known site) :
    ∃ issue, finding.IsComplete issue := by
  rcases exists_of_mem_defaultFindings told with ⟨default, given, rfl⟩
  refine ⟨.typeMismatchDefault, Finding.isComplete_of_arguments rfl rfl ?_⟩
  rw [defaultMismatch, List.forall_mem_cons, List.forall_mem_cons, List.forall_mem_singleton]
  exact ⟨knownBraceless.text, braceless.name, (braceless.defaultType default given).text⟩

theorem isComplete_of_mem_findings (braceless : parameter.IsBraceless)
    (wellFormed : ∀ documented ∈ documented?, documented.IsWellFormed)
    (told : finding ∈ parameter.findings documented? site) :
    ∃ issue, finding.IsComplete issue := by
  rcases List.mem_append.mp told with variadic | default
  · exact isComplete_of_mem_variadicFindings braceless wellFormed variadic
  · apply isComplete_of_mem_defaultFindings braceless _ default
    apply braceless.type.beforeDefault
    intro type member
    rcases Option.mem_map.mp member with ⟨documented, isDocumented, rfl⟩
    exact (wellFormed documented isDocumented).type.isBraceless

end Parameter

namespace Declaration

/-- Whatever comment is read, every finding that reconciliation hands to a sink is complete. -/
theorem isComplete_of_reconcile [Sink σ] (declaration : Declaration)
    (braceless : ∀ parameter ∈ declaration.parameters, parameter.IsBraceless)
    (source : String) (site : Span) (sink : σ) :
    (declaration.reconcile (Comment.parse source) site sink).2 =
        (declaration.reconcile (Comment.parse source) site ([] : List Finding)).2.foldl
          emit sink ∧
      ∀ finding ∈ (declaration.reconcile (Comment.parse source) site ([] : List Finding)).2,
        ∃ issue, finding.IsComplete issue := by
  rw [reconcile_eq, reconcile_eq, foldl_emit_list, List.nil_append]
  refine ⟨rfl, ?_⟩
  intro finding member
  rcases List.mem_flatten.mp member with ⟨block, isBlock, inBlock⟩
  rcases exists_offset_of_mem_findingBlocks isBlock with
    ⟨offset, parameter, atOffset, isFindings⟩
  rw [isFindings] at inBlock
  apply Parameter.isComplete_of_mem_findings _ _ inBlock
  · exact braceless parameter (List.mem_of_getElem? atOffset)
  · intro documented found
    have entry := (Comment.mem_parameters_of_parameterFor? found).1
    exact (Comment.isWellFormed_ofLines _).parameters documented entry

theorem isComplete_of_reconcile_mismatches :
    let declaration : Declaration :=
      { name := "f"
        signature :=
          { parameters := .ofList [⟨"x", .ofKeyword .int, false, some (.ofKeyword .string)⟩] } }
    let comment := Comment.parse "/** @param A ...$x */"
    let findings := (declaration.reconcile comment (.ofLine "f.php" 1) ([] : List Finding)).2
    findings.map Finding.message =
        ["A ...x is variadic in comment, but not variadic in param (int x)",
          "Default value for int x can't be string"] ∧
      ∀ finding ∈ findings, ∃ issue, finding.IsComplete issue := by
  intro declaration comment findings
  have noClass (word : Keyword) : (UnionType.ofKeyword word).IsBraceless :=
    fun _ member => absurd (List.mem_singleton.mp member) (by simp)
  have braceless : ∀ parameter ∈ declaration.parameters, parameter.IsBraceless := by
    intro parameter member
    rcases List.mem_singleton.mp member with rfl
    refine ⟨by decide, noClass .int, ?_⟩
    intro default given
    cases given
    exact noClass .string
  refine ⟨by decide +kernel, ?_⟩
  exact (isComplete_of_reconcile declaration braceless _ _ ([] : List Finding)).2

end Declaration

end ParamTypes
