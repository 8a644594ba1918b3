import ParamTypes.Proofs.Comment.Blocks
import ParamTypes.Proofs.Comment.Lookup
import ParamTypes.Proofs.Reconciliation.Findings

/-!
Two comments that differ in the text of one parameter tag. The tag keeps its
position whatever its text says, so every other entry keeps its own, and only
parameters at that position or of a name that the tag has in one of the comments
can be reconciled differently.
-/

namespace ParamTypes

/-! ## Lists that differ at one position -/

theorem getElem?_append_cons_of_ne {before after : List α} {one other : α} {position : Nat}
    (elsewhere : position ≠ before.length) :
    (before ++ one :: after)[position]? = (before ++ other :: after)[position]? := by
  rcases Nat.lt_or_gt_of_ne elsewhere with isBefore | isAfter
  · rw [List.getElem?_append_left isBefore, List.getElem?_append_left isBefore]
  · obtain ⟨distance, rfl⟩ := Nat.exists_eq_add_of_lt isAfter
    rw [List.getElem?_append_right (by omega), List.getElem?_append_right (by omega),
      Nat.add_assoc, Nat.add_sub_cancel_left, List.getElem?_cons_succ, List.getElem?_cons_succ]

namespace Comment

variable {first second : Comment} {before after : List DocParameter} {one other : DocParameter}

theorem parameterFor?_of_changed (isFirst : first.parameters = before ++ one :: after)
    (isSecond : second.parameters = before ++ other :: after) {name : String}
    (notOne : one.name ≠ name) (notOther : other.name ≠ name) {offset : Nat}
    (elsewhere : offset ≠ before.length) :
    first.parameterFor? name offset = second.parameterFor? name offset := by
  have byName : first.firstOfName? name = second.firstOfName? name := by
    simp [firstOfName?, isFirst, isSecond, List.find?_append, notOne, notOther]
  have byPosition : first.named? offset = second.named? offset := by
    rw [named?, named?, isFirst, isSecond, getElem?_append_cons_of_ne elsewhere]
  rw [parameterFor?_eq, parameterFor?_eq, byName, byPosition]

/-! ## Comments with one changed tag -/

def blocks (source : String) : List Block :=
  Block.all (Line.all source.toList)

theorem parameters_parse_of_blocks {source : String} {before after : List Block}
    {text : List Char}
    (isBlocks : blocks source = before ++ ⟨"param".toList, text⟩ :: after) :
    (parse source).parameters =
      before.filterMap Block.parameter? ++
        ParamTag.read text :: after.filterMap Block.parameter? := by
  rw [blocks] at isBlocks
  rw [parse, parameters_ofLines, isBlocks, List.filterMap_append]
  rfl

theorem length_filterMap_parameter? (blocks : List Block) :
    (blocks.filterMap Block.parameter?).length = blocks.countP Block.isParam := by
  rw [Block.filterMap_parameter?, List.length_map, List.countP_eq_length_filter]

theorem getElem?_parse_of_blocks {source : String} {before after : List Block}
    {text : List Char}
    (isBlocks : blocks source = before ++ ⟨"param".toList, text⟩ :: after) :
    (parse source).parameters[before.countP Block.isParam]? =
      some (ParamTag.read text) := by
  rw [parameters_parse_of_blocks isBlocks, ← length_filterMap_parameter?,
    List.getElem?_append_right (Nat.le_refl _), Nat.sub_self, List.getElem?_cons_zero]

theorem returnType_parse_of_blocks {source : String} {before after : List Block}
    {text : List Char}
    (isBlocks : blocks source = before ++ ⟨"param".toList, text⟩ :: after) :
    (parse source).returnType = (before ++ after).findSome? Block.returnType? := by
  rw [blocks] at isBlocks
  rw [parse, returnType_ofLines, isBlocks, List.findSome?_append, List.findSome?_append]
  rfl

end Comment

/-! ## Passes with two comments -/

namespace Declaration

variable {declaration : Declaration} {first second : Comment} {offset : Nat}
  {parameter : Parameter}

theorem getElem?_merged_of_parameterFor?
    (atOffset : declaration.parameters[offset]? = some parameter)
    (same : first.parameterFor? parameter.name offset =
      second.parameterFor? parameter.name offset) :
    (declaration.merged first).parameters[offset]? =
      (declaration.merged second).parameters[offset]? := by
  cases trusted : declaration.isInternal with
  | true => simp [merged, trusted]
  | false =>
      rw [getElem?_parameters_merged trusted, getElem?_parameters_merged trusted, atOffset,
        Option.map_some, Option.map_some, same]

theorem getElem?_findingBlocks_of_parameterFor?
    (atOffset : declaration.parameters[offset]? = some parameter)
    (same : first.parameterFor? parameter.name offset =
      second.parameterFor? parameter.name offset) (site : Span) :
    (declaration.findingBlocks first site)[offset]? =
      (declaration.findingBlocks second site)[offset]? := by
  cases trusted : declaration.isInternal with
  | true => rw [findingBlocks_eq_nil trusted, findingBlocks_eq_nil trusted]
  | false =>
      rw [getElem?_findingBlocks trusted, getElem?_findingBlocks trusted, atOffset,
        Option.map_some, Option.map_some, same]

open Comment in
/-- Whatever the text of one parameter tag is changed to, the entries at all other
positions and the return type stay. A declared parameter at another position and
of another name than the tag has before and after the change is reconciled alike:
it gets the same type, in whatever sink it reports the same, and its part of the
findings of the whole pass is the same. -/
theorem reconcile_of_changed_tag [Sink σ] {first second : String} {before after : List Block}
    {text other : List Char}
    (isFirst : blocks first = before ++ ⟨"param".toList, text⟩ :: after)
    (isSecond : blocks second = before ++ ⟨"param".toList, other⟩ :: after) :
    let position := before.countP Block.isParam
    ((parse first).parameters[position]? = some (ParamTag.read text) ∧
        (parse second).parameters[position]? = some (ParamTag.read other)) ∧
      (∀ offset, offset ≠ position →
        (parse first).parameters[offset]? = (parse second).parameters[offset]?) ∧
      (parse first).returnType = (parse second).returnType ∧
      ∀ (declaration : Declaration) (site : Span) (sink : σ),
        ((declaration.reconcile (parse first) site ([] : List Finding)).2 =
            (declaration.findingBlocks (parse first) site).flatten ∧
          (declaration.reconcile (parse second) site ([] : List Finding)).2 =
            (declaration.findingBlocks (parse second) site).flatten) ∧
        ∀ (offset : Nat) (parameter : Parameter),
          declaration.parameters[offset]? = some parameter → offset ≠ position →
          (ParamTag.read text).name ≠ parameter.name →
          (ParamTag.read other).name ≠ parameter.name →
          (declaration.reconcile (parse first) site sink).1.parameters[offset]? =
              (declaration.reconcile (parse second) site sink).1.parameters[offset]? ∧
            parameter.reconcile offset (parse first) site sink =
              parameter.reconcile offset (parse second) site sink ∧
            (declaration.findingBlocks (parse first) site)[offset]? =
              (declaration.findingBlocks (parse second) site)[offset]? := by
  intro position
  have firstEntries := parameters_parse_of_blocks isFirst
  have secondEntries := parameters_parse_of_blocks isSecond
  have isPosition : (before.filterMap Block.parameter?).length = position :=
    length_filterMap_parameter? before
  refine ⟨⟨getElem?_parse_of_blocks isFirst, getElem?_parse_of_blocks isSecond⟩, ?_, ?_, ?_⟩
  · intro offset elsewhere
    rw [firstEntries, secondEntries]
    exact getElem?_append_cons_of_ne (isPosition ▸ elsewhere)
  · rw [returnType_parse_of_blocks isFirst, returnType_parse_of_blocks isSecond]
  · intro declaration site sink
    refine ⟨⟨declaration.told_reconcile _ site, declaration.told_reconcile _ site⟩, ?_⟩
    intro offset parameter atOffset elsewhere notText notOther
    -- The pass sees the comments through this one look-up.
    have same : (parse first).parameterFor? parameter.name offset =
        (parse second).parameterFor? parameter.name offset :=
      parameterFor?_of_changed firstEntries secondEntries notText notOther
        (isPosition ▸ elsewhere)
    refine ⟨?_, ?_, getElem?_findingBlocks_of_parameterFor? atOffset same site⟩
    · rw [reconcile_eq, reconcile_eq]
      exact getElem?_merged_of_parameterFor? atOffset same
    · rw [Parameter.reconcile_eq, Parameter.reconcile_eq, same]

/-- A brace that is not closed makes a tag unusable. The parameter behind it is
found by its position all the same, and the last tag says the same with the end
of the comment on its line. -/
theorem reconcile_of_unclosed_tag :
    let first := "/**\n * @param int $a\n * @param bool $b\n * @param string $c\n*/"
    let second := "/**\n * @param int $a\n * @param \x7bbool $b\n * @param string $c */"
    let untyped (name : String) : Parameter := ⟨name, ∅, false, none⟩
    let declaration : Declaration :=
      { name := "f"
        signature.parameters.parameters := [untyped "x", untyped "y", untyped "z"] }
    let site := Span.ofLine "a.src" 3
    Comment.blocks first =
        [⟨"param".toList, " int $a".toList⟩] ++ ⟨"param".toList, " bool $b".toList⟩ ::
          [⟨"param".toList, " string $c".toList⟩] ∧
      Comment.blocks second =
        [⟨"param".toList, " int $a".toList⟩] ++ ⟨"param".toList, " \x7bbool $b".toList⟩ ::
          [⟨"param".toList, " string $c".toList⟩] ∧
      (Comment.parse first).parameters[1]? = some ⟨"b", .ofKeyword .bool, false⟩ ∧
      (Comment.parse second).parameters[1]? = some .placeholder ∧
      (declaration.reconcile (Comment.parse first) site ([] : List Finding)).1.parameters[2]? =
        (declaration.reconcile (Comment.parse second) site
          ([] : List Finding)).1.parameters[2]? := by
  intro first second untyped declaration site
  have isFirst : Comment.blocks first =
      [⟨"param".toList, " int $a".toList⟩] ++ ⟨"param".toList, " bool $b".toList⟩ ::
        [⟨"param".toList, " string $c".toList⟩] := by
    decide +kernel
  have isSecond : Comment.blocks second =
      [⟨"param".toList, " int $a".toList⟩] ++ ⟨"param".toList, " \x7bbool $b".toList⟩ ::
        [⟨"param".toList, " string $c".toList⟩] := by
    decide +kernel
  have usable : ParamTag.read " bool $b".toList = ⟨"b", .ofKeyword .bool, false⟩ := by
    decide +kernel
  have unusable : ParamTag.read " \x7bbool $b".toList = .placeholder := by
    decide +kernel
  rcases reconcile_of_changed_tag (σ := List Finding) isFirst isSecond with
    ⟨⟨firstEntry, secondEntry⟩, _, _, reconciled⟩
  refine ⟨isFirst, isSecond, usable ▸ firstEntry, unusable ▸ secondEntry, ?_⟩
  refine ((reconciled declaration site []).2 2 (untyped "z") rfl (by decide) ?_ ?_).1
  · rw [usable]
    decide
  · rw [unusable]
    decide

end Declaration

end ParamTypes
