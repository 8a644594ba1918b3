import ParamTypes.Comment.Basic
import ParamTypes.Diagnostic.Sink
import ParamTypes.Declaration

/-!
Reconciliation: the type of every parameter from its declaration, its comment
and its default value.

A declared type stands before a documented one. A null default makes a known
type nullable and says nothing about an unknown one; any other default joins
the type, an unknown type becoming the universal one first. Where the sources
disagree a finding goes to the sink, and the merge goes on.
-/

namespace ParamTypes

namespace Parameter

/-! ## Findings -/

/-- The finding that a parameter is variadic in its declaration or its comment,
but not in both. -/
def variadicMismatch (parameter : Parameter) (documented : DocParameter)
    (site : Span) : Finding where
  code :=
    if parameter.isVariadic then
      Issue.typeMismatchVariadicParam.code
    else
      Issue.typeMismatchVariadicComment.code
  site := site
  arguments := [.text documented.text, .text parameter.text]

def defaultMismatch (parameter : Parameter) (default : UnionType) (site : Span) :
    Finding where
  code := Issue.typeMismatchDefault.code
  site := site
  arguments := [.type parameter.type, .text parameter.name, .type default]

/-! ## Merging -/

variable [Sink σ]

/-- Take the documented type if none is declared. -/
def mergeDocumented (parameter : Parameter) (documented : DocParameter)
    (site : Span) (sink : σ) : Parameter × σ :=
  let told :=
    if parameter.isVariadic == documented.isVariadic then sink
    else emit sink (parameter.variadicMismatch documented site)
  if parameter.type.isEmpty then
    ({ parameter with type := documented.type }, told)
  else
    (parameter, told)

def mergeDefault (parameter : Parameter) (default : UnionType) (site : Span)
    (sink : σ) : Parameter × σ :=
  if default.isExactly (.keyword .null) then
    if parameter.type.isEmpty then
      (parameter, sink)
    else
      ({ parameter with type := parameter.type.insert (.keyword .null) }, sink)
  else
    let told :=
      if default.castsTo parameter.type then sink
      else emit sink (parameter.defaultMismatch default site)
    let known := if parameter.type.isEmpty then UnionType.any else parameter.type
    ({ parameter with type := known ∪ default }, told)

def reconcile (parameter : Parameter) (offset : Nat) (comment : Comment)
    (site : Span) (sink : σ) : Parameter × σ :=
  let (merged, told) :=
    match comment.parameterFor? parameter.name offset with
    | some documented => parameter.mergeDocumented documented site sink
    | none => (parameter, sink)
  match merged.defaultType with
  | some default => merged.mergeDefault default site told
  | none => (merged, told)

/-- A null default says nothing about an unknown type. -/
example (site : Span) :
    let untyped : Parameter := ⟨"x", ∅, false, some .null⟩
    (untyped.reconcile 0 ∅ site ([] : List Finding)).1 = untyped := rfl

/-- A parameter without a type is not narrowed to its default. -/
example (site : Span) :
    let untyped : Parameter := ⟨"x", ∅, false, some (.ofKeyword .int)⟩
    (untyped.reconcile 0 ∅ site ([] : List Finding)).1.type =
      .ofList [.keyword .any, .keyword .int] := rfl

def reconcileFrom (comment : Comment) (site : Span) :
    (offset : Nat) → List Parameter → σ → List Parameter × σ
  | _, [], sink => ([], sink)
  | offset, parameter :: parameters, sink =>
      let (first, told) := parameter.reconcile offset comment site sink
      let (others, done) := reconcileFrom comment site (offset + 1) parameters told
      (first :: others, done)

end Parameter

/-- Reconcile every parameter of a declaration, unless it is internal. The
findings bear the given site. -/
def Declaration.reconcile [Sink σ] (declaration : Declaration) (comment : Comment)
    (site : Span) (sink : σ) : Declaration × σ :=
  if declaration.isInternal then
    (declaration, sink)
  else
    let (parameters, told) :=
      Parameter.reconcileFrom comment site 0 declaration.parameters sink
    (declaration.setParameters parameters, told)

@[simp] theorem Declaration.reconcile_of_isInternal [Sink σ]
    {declaration : Declaration} (trusted : declaration.isInternal) (comment : Comment)
    (site : Span) (sink : σ) :
    declaration.reconcile comment site sink = (declaration, sink) := by
  simp [Declaration.reconcile, trusted]

end ParamTypes
