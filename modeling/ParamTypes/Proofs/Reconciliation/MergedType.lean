import ParamTypes.Proofs.Reconciliation.Pass

/-!
The type of a reconciled parameter in closed form: an ordered list of atoms that
three ordered lists determine, those of the declaration, the comment and the
default value.
-/

namespace ParamTypes

/-! ## Lists of atoms -/

def appendNew (atoms added : List Atom) : List Atom :=
  atoms ++ added.filter (· ∉ atoms)

/-- The atoms of a parameter, from those that its declaration, its comment and
its default value give. -/
def mergedAtoms (declared : List Atom) (documented? default? : Option (List Atom)) :
    List Atom :=
  let base := if declared = [] then documented?.getD [] else declared
  match default? with
  | none => base
  | some default =>
      if default = [.keyword .null] then
        if base = [] then [] else appendNew base [.keyword .null]
      else
        appendNew (if base = [] then [.keyword .any] else base) default

example :
    mergedAtoms [] (some [.keyword .int]) (some [.keyword .null, .keyword .int]) =
      [.keyword .int, .keyword .null] := by
  decide

namespace UnionType

theorem toList_beforeDefault (declared : UnionType) (documented? : Option UnionType) :
    (declared.beforeDefault documented?).toList =
      if declared.toList = [] then (documented?.map (·.toList)).getD []
      else declared.toList := by
  by_cases untyped : declared = ∅
  · cases documented? <;> simp [untyped]
  · have typed : declared.toList ≠ [] := fun none =>
      untyped (OrderedSet.toList_eq_nil_iff.mp none)
    rw [beforeDefault_of_ne_empty untyped, if_neg typed]

theorem toList_withDefault (known default : UnionType) :
    (known.withDefault default).toList =
      if default.toList = [.keyword .null] then
        if known.toList = [] then [] else appendNew known.toList [.keyword .null]
      else
        appendNew (if known.toList = [] then [.keyword .any] else known.toList)
          default.toList := by
  have untyped_iff : known.isEmpty = true ↔ known.toList = [] := by
    rw [OrderedSet.isEmpty_iff, OrderedSet.toList_eq_nil_iff]
  simp only [withDefault, untyped_iff, eq_null_iff]
  by_cases isNull : default.toList = [.keyword .null]
  · by_cases untyped : known.toList = []
    · simp [isNull, untyped]
    · rw [if_pos isNull, if_pos isNull, if_neg untyped, if_neg untyped,
        OrderedSet.toList_union]
      rfl
  · rw [if_neg isNull, if_neg isNull, OrderedSet.toList_union]
    by_cases untyped : known.toList = []
    · rw [if_pos untyped, if_pos untyped]
      rfl
    · rw [if_neg untyped, if_neg untyped]
      rfl

theorem toList_merged (declared : UnionType) (documented? default? : Option UnionType) :
    (declared.merged documented? default?).toList =
      mergedAtoms declared.toList (documented?.map (·.toList)) (default?.map (·.toList)) := by
  cases default? with
  | none => exact toList_beforeDefault declared documented?
  | some default =>
      simp only [merged, toList_withDefault, toList_beforeDefault]
      rfl

end UnionType

/-! ## Reconciled parameters -/

namespace Declaration

variable [Sink σ] [Sink τ]

/-- The parameter at an offset has the atoms that its own three sources make
up. Declarations with the same parameter there give it the same type, whatever
their other parameters, flags, sites and sinks are. -/
theorem atoms_reconcile (declaration : Declaration)
    (checked : declaration.isInternal = false) (comment : Comment) (site : Span)
    (sink : σ) (offset : Nat) :
    (declaration.reconcile comment site sink).1.parameters[offset]?.map (·.type.toList) =
        declaration.parameters[offset]?.map (fun parameter =>
          mergedAtoms parameter.type.toList
            ((comment.parameterFor? parameter.name offset).map (·.type.toList))
            (parameter.defaultType.map (·.toList))) ∧
      ∀ (other : Declaration) (otherSite : Span) (otherSink : τ),
        other.isInternal = false →
        other.parameters[offset]? = declaration.parameters[offset]? →
        (other.reconcile comment otherSite otherSink).1.parameters[offset]?.map (·.type) =
          (declaration.reconcile comment site sink).1.parameters[offset]?.map (·.type) := by
  constructor
  · rw [reconcile_eq, getElem?_parameters_merged checked, Option.map_map]
    congr 1
    funext parameter
    simp [Parameter.merged, UnionType.toList_merged, Function.comp_def]
  · intro other otherSite otherSink otherChecked same
    rw [reconcile_eq, reconcile_eq, getElem?_parameters_merged otherChecked,
      getElem?_parameters_merged checked, same]

theorem atoms_reconcile_by_position :
    let untyped : Parameter :=
      ⟨"count", ∅, false, some (.ofList [.keyword .null, .keyword .int])⟩
    let declaration : Declaration :=
      { name := "repeat", signature.parameters.parameters := [untyped] }
    let comment := Comment.ofParameters [⟨"times", .ofKeyword .string, false⟩]
    let site := Span.ofLine "a.src" 3
    declaration.isInternal = false ∧
      (declaration.reconcile comment site ([] : List Finding)).1.parameters[0]?.map
        (·.type.toList) = some [.keyword .string, .keyword .null, .keyword .int] := by
  intro untyped declaration comment site
  refine ⟨rfl, ?_⟩
  have atoms := (declaration.atoms_reconcile (τ := List Finding) rfl comment site
    ([] : List Finding) 0).1
  exact atoms.trans (by decide)

end Declaration

end ParamTypes
