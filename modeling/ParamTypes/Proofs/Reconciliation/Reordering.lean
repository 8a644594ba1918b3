import Mathlib.Data.List.Nodup
import ParamTypes.Proofs.Comment.Lookup
import ParamTypes.Proofs.Reconciliation.Pass

/-!
Comments that say the same about a declaration. A pass asks a comment for one entry
per declared parameter, so comments with the same answers cannot be told apart
(`Declaration.reconcile_of_parameterFor?`).

Where the comment names every declared parameter no entry is found by its position,
and the order of entries is free. Where it does not, entries are still out of reach
when they have no declared name and come after the last declared position.
-/

namespace ParamTypes

/-! ## Lists -/

theorem find?_of_perm {first second : List α} {satisfies : α → Bool}
    (permuted : second.Perm first) (unique : first.countP satisfies ≤ 1) :
    second.find? satisfies = first.find? satisfies := by
  have filtered := permuted.filter satisfies
  rw [List.countP_eq_length_filter] at unique
  rw [← List.head?_filter, ← List.head?_filter]
  cases found : first.filter satisfies with
  | nil =>
      rw [found] at filtered
      rw [List.perm_nil.mp filtered]
  | cons one others =>
      have alone : others = [] := by simpa [found] using unique
      rw [found, alone] at filtered
      rw [List.perm_singleton.mp filtered, List.head?_cons, List.head?_cons]

theorem getElem?_append_of_late {entries added : List α} {bound offset : Nat}
    (late : ∀ index < added.length, bound ≤ entries.length + index)
    (before : offset < bound) : (entries ++ added)[offset]? = entries[offset]? := by
  by_cases inside : offset < entries.length
  · exact List.getElem?_append_left inside
  · have outside : added.length ≤ offset - entries.length := by
      by_contra reached
      have isLate := late (offset - entries.length) (by omega)
      omega
    rw [List.getElem?_append_right (by omega), List.getElem?_eq_none outside,
      List.getElem?_eq_none (by omega)]

/-! ## Comments -/

namespace Comment

theorem countP_name_le_one {parameters : List DocParameter}
    (distinct : (givenNames parameters).Nodup) {name : String} (named : name ≠ "") :
    parameters.countP (·.name = name) ≤ 1 := by
  have once := List.nodup_iff_count_le_one.mp distinct name
  rw [givenNames, List.count_filter (by simpa using named), List.count,
    List.countP_map] at once
  exact once

theorem parameterFor?_of_perm {first second : Comment}
    (permuted : second.parameters.Perm first.parameters)
    (distinct : (givenNames first.parameters).Nodup) {name : String}
    (given : name ∈ givenNames first.parameters) (offset : Nat) :
    second.parameterFor? name offset = first.parameterFor? name offset := by
  rcases mem_givenNames.mp given with ⟨named, isName⟩
  have same : second.firstOfName? name = first.firstOfName? name := by
    rw [firstOfName?, firstOfName?, if_neg named, if_neg named,
      find?_of_perm permuted (countP_name_le_one distinct named)]
  have found : (first.firstOfName? name).isSome := by
    rcases List.mem_map.mp isName with ⟨documented, isEntry, isNamed⟩
    rw [firstOfName?, if_neg named, List.find?_isSome]
    exact ⟨documented, isEntry, decide_eq_true isNamed⟩
  rcases Option.isSome_iff_exists.mp found with ⟨documented, isFound⟩
  rw [parameterFor?_eq, parameterFor?_eq, same, isFound, Option.some_or, Option.some_or]

theorem parameterFor?_addMany {comment : Comment} {added : List DocParameter} {name : String}
    {bound offset : Nat} (renamed : ∀ documented ∈ added, documented.name ≠ name)
    (late : ∀ index < added.length, bound ≤ comment.parameters.length + index)
    (before : offset < bound) :
    (comment.addMany added).parameterFor? name offset = comment.parameterFor? name offset := by
  have noneAdded : added.find? (·.name = name) = none := by
    simpa using renamed
  rw [parameterFor?_eq, parameterFor?_eq, firstOfName?, firstOfName?, named?, named?,
    parameters_addMany, getElem?_append_of_late late before, List.find?_append, noneAdded,
    Option.or_none]

end Comment

/-! ## Passes -/

namespace Declaration

theorem mapIdx_parameterFor? {declaration : Declaration} {first second : Comment}
    (same : ∀ offset parameter, declaration.parameters[offset]? = some parameter →
      second.parameterFor? parameter.name offset = first.parameterFor? parameter.name offset)
    (combine : Parameter → Option DocParameter → α) :
    (declaration.parameters.mapIdx fun offset parameter =>
        combine parameter (second.parameterFor? parameter.name offset)) =
      declaration.parameters.mapIdx fun offset parameter =>
        combine parameter (first.parameterFor? parameter.name offset) := by
  apply List.mapIdx_eq_mapIdx_iff.mpr
  intro offset inside
  rw [same offset _ (List.getElem?_eq_getElem inside)]

/-- A pass depends on a comment through the entries of the declared parameters. -/
theorem reconcile_of_parameterFor? [Sink σ] {declaration : Declaration}
    {first second : Comment}
    (same : ∀ offset parameter, declaration.parameters[offset]? = some parameter →
      second.parameterFor? parameter.name offset = first.parameterFor? parameter.name offset)
    (site : Span) (sink : σ) :
    declaration.reconcile second site sink = declaration.reconcile first site sink := by
  have merges := mapIdx_parameterFor? same Parameter.merged
  have finds := mapIdx_parameterFor? same fun parameter documented? =>
    parameter.findings documented? site
  rw [reconcile_eq, reconcile_eq, merged, merged, findingBlocks, findingBlocks, merges, finds]

/-- If no two entries have the same name and every declared parameter has one of
them, a pass goes alike in every order of the entries, those without a name
included. Entries behind the others change nothing in any pass if each stands behind
the last declared position and none has a declared name. In both cases the
declaration comes out the same, and so does the sink, whatever it makes of what is
reported. -/
theorem reconcile_of_reordered [Sink σ] (declaration : Declaration) (comment : Comment)
    (site : Span) (sink : σ) :
    (∀ reordered : Comment, reordered.parameters.Perm comment.parameters →
        (givenNames comment.parameters).Nodup →
        (∀ parameter ∈ declaration.parameters,
          parameter.name ∈ givenNames comment.parameters) →
        declaration.reconcile reordered site sink =
          declaration.reconcile comment site sink) ∧
      ∀ added : List DocParameter,
        (∀ index < added.length,
          declaration.parameters.length ≤ comment.parameters.length + index) →
        (∀ documented ∈ added, ∀ parameter ∈ declaration.parameters,
          documented.name ≠ parameter.name) →
        declaration.reconcile (comment.addMany added) site sink =
          declaration.reconcile comment site sink := by
  constructor
  · intro reordered permuted distinct given
    apply reconcile_of_parameterFor?
    intro offset parameter atOffset
    have isDeclared := List.mem_of_getElem? atOffset
    exact Comment.parameterFor?_of_perm permuted distinct (given parameter isDeclared) offset
  · intro added late renamed
    apply reconcile_of_parameterFor?
    intro offset parameter atOffset
    have isDeclared := List.mem_of_getElem? atOffset
    have inside := (List.getElem?_eq_some_iff.mp atOffset).1
    exact Comment.parameterFor?_addMany
      (fun documented isAdded => renamed documented isAdded parameter isDeclared) late inside

theorem reconcile_of_reordered_repeated :
    let declaration : Declaration :=
      { name := "f"
        signature.parameters.parameters :=
          [⟨"b", ∅, false, none⟩, ⟨"a", ∅, false, some .null⟩, ⟨"b", .null, true, none⟩] }
    let comment := Comment.ofParameters
      [.placeholder, ⟨"a", .ofKeyword .int, true⟩, ⟨"b", .ofKeyword .string, false⟩]
    let reordered := Comment.ofParameters
      [⟨"b", .ofKeyword .string, false⟩, .placeholder, ⟨"a", .ofKeyword .int, true⟩]
    let added : List DocParameter := [⟨"c", .ofKeyword .bool, false⟩, .placeholder]
    let site := Span.ofLine "a.src" 3
    let pass := declaration.reconcile comment site ([] : List Finding)
    reordered.parameters.Perm comment.parameters ∧
      (givenNames comment.parameters).Nodup ∧
      (∀ parameter ∈ declaration.parameters,
        parameter.name ∈ givenNames comment.parameters) ∧
      (∀ index < added.length,
        declaration.parameters.length ≤ comment.parameters.length + index) ∧
      (∀ documented ∈ added, ∀ parameter ∈ declaration.parameters,
        documented.name ≠ parameter.name) ∧
      declaration.reconcile reordered site [] = pass ∧
      declaration.reconcile (comment.addMany added) site [] = pass ∧
      pass.2.map Finding.code =
        [Issue.typeMismatchVariadicComment.code, Issue.typeMismatchVariadicParam.code] := by
  intro declaration comment reordered added site pass
  have permuted : reordered.parameters.Perm comment.parameters := by decide
  have distinct : (givenNames comment.parameters).Nodup := by decide
  have given : ∀ parameter ∈ declaration.parameters,
      parameter.name ∈ givenNames comment.parameters := by decide
  have late : ∀ index < added.length,
      declaration.parameters.length ≤ comment.parameters.length + index := by decide
  have renamed : ∀ documented ∈ added, ∀ parameter ∈ declaration.parameters,
      documented.name ≠ parameter.name := by decide
  have facts := declaration.reconcile_of_reordered comment site ([] : List Finding)
  exact ⟨permuted, distinct, given, late, renamed, facts.1 reordered permuted distinct given,
    facts.2 added late renamed, by decide⟩

end Declaration

end ParamTypes
