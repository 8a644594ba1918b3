import ParamTypes.Proofs.Comment.Blocks
import ParamTypes.Proofs.Comment.Lookup
import ParamTypes.Proofs.TypeExpr.WrittenType

/-!
What holds of every comment that is read, however it is written: names are identifiers, and
the classes in types have proper names. A tag that gives no such name leaves a placeholder,
and a type expression that cannot be read leaves nothing.
-/

namespace ParamTypes

open Text

/-! ## Types -/

/-- Whether a class name is made of identifiers between separators, with none in front. -/
structure IsBareClassName (className : String) : Prop where
  nonempty : className ≠ ""
  unqualified : className.toList.head? ≠ some '\\'
  identifiers : ∀ segment ∈ className.toList.splitOn '\\', isIdentifier segment = true

theorem isBareClassName_of_identifiers {className : String}
    (identifiers : ∀ segment ∈ className.toList.splitOn '\\', isIdentifier segment = true) :
    IsBareClassName className where
  nonempty := by
    rintro rfl
    exact Bool.noConfusion (identifiers [] (by decide))
  unqualified := by
    intro begins
    cases parts : className.toList with
    | nil =>
        rw [parts] at begins
        cases begins
    | cons first rest =>
        rw [parts] at begins identifiers
        cases begins
        rw [List.splitOn_cons_eq_if_modifyHead] at identifiers
        exact Bool.noConfusion (identifiers [] List.mem_cons_self)
  identifiers := identifiers

theorem isBareClassName_of_isWellNamed {className : String}
    (wellNamed : (Atom.named className).IsWellNamed) : IsBareClassName className := by
  rcases wellNamed with ⟨segments, nonempty, identifiers, parts⟩
  have noSeparator : ∀ segment ∈ segments, '\\' ∉ segment := fun segment member =>
    not_mem_of_isIdentifier (identifiers segment member) (by decide)
  apply isBareClassName_of_identifiers
  rwa [parts, List.splitOn_intercalate '\\' noSeparator nonempty]

namespace UnionType

/-- Whether no atom is repeated and every class has a proper name. -/
structure IsWellFormed (type : UnionType) : Prop where
  nodup : type.toList.Nodup
  classNames : ∀ className, .named className ∈ type → IsBareClassName className

theorem isWellFormed_empty : IsWellFormed ∅ where
  nodup := List.nodup_nil
  classNames _ member := absurd member (OrderedSet.not_mem_empty _)

theorem isWellFormed_getD {type? : Option UnionType}
    (each : ∀ type ∈ type?, type.IsWellFormed) : (type?.getD ∅).IsWellFormed := by
  cases type? with
  | none => exact isWellFormed_empty
  | some type => exact each type rfl

theorem parse_of_toOption {source : String} {type : UnionType}
    (read : (parse source).toOption = some type) : parse source = .ok type := by
  cases parsed : parse source with
  | ok other =>
      rw [parsed] at read
      cases read
      rfl
  | error fault =>
      rw [parsed] at read
      cases read

theorem isWellFormed_of_parse {source : String} {type : UnionType}
    (read : parse source = .ok type) : type.IsWellFormed where
  nodup := type.nodup
  classNames _ member :=
    isBareClassName_of_isWellNamed ((areWritable_of_parse read).2 _ member)

theorem ne_empty_of_parse {source : String} {type : UnionType}
    (read : parse source = .ok type) : type ≠ ∅ := by
  rintro rfl
  exact (areWritable_of_parse read).1 rfl

end UnionType

/-! ## Tags -/

/-- Whether a parameter has an identifier as its name, or stands for a tag without a name. -/
structure DocParameter.IsWellFormed (documented : DocParameter) : Prop where
  name : documented = .placeholder ∨ isIdentifier documented.name.toList = true
  type : documented.type.IsWellFormed

namespace DocParameter.IsWellFormed

theorem placeholder : IsWellFormed .placeholder where
  name := .inl rfl
  type := UnionType.isWellFormed_empty

theorem isIdentifier_of_named {documented : DocParameter} (wellFormed : documented.IsWellFormed)
    (named : documented.name ≠ "") : isIdentifier documented.name.toList = true := by
  rcases wellFormed.name with rfl | identifier
  · exact absurd rfl named
  · exact identifier

end DocParameter.IsWellFormed

namespace ParamTag

theorem isWellFormed_describe (type? : Option (List Char)) (word : List Char) :
    (describe type? word).IsWellFormed := by
  rw [describe]
  rcases readName word with ⟨name, isVariadic⟩
  dsimp only
  split
  · rename_i identifier
    constructor
    · exact .inr (by rwa [String.toList_ofList])
    · apply UnionType.isWellFormed_getD
      intro type given
      rcases Option.bind_eq_some_iff.mp given with ⟨_, _, read⟩
      exact UnionType.isWellFormed_of_parse (UnionType.parse_of_toOption read)
  · exact .placeholder

theorem isWellFormed_read (text : List Char) : (read text).IsWellFormed := by
  rw [read]
  split
  · exact .placeholder
  · split
    · exact isWellFormed_describe _ _
    · exact isWellFormed_describe _ _

theorem parse_of_readType? {text : List Char} {type : UnionType}
    (given : readType? text = some type) : ∃ source, UnionType.parse source = .ok type := by
  rw [readType?, Option.bind_eq_some_iff] at given
  rcases given with ⟨⟨expression, _⟩, _, read⟩
  exact ⟨_, UnionType.parse_of_toOption read⟩

end ParamTag

/-! ## Comments -/

namespace Comment

/-- Whether all the entries of a comment are well formed, and its return type says something. -/
structure IsWellFormed (comment : Comment) : Prop where
  parameters : ∀ documented ∈ comment.parameters, documented.IsWellFormed
  returnType : ∀ type ∈ comment.returnType, type ≠ ∅ ∧ type.IsWellFormed

theorem isWellFormed_ofLines (lines : List Line) : (ofLines lines).IsWellFormed where
  parameters documented member := by
    rw [parameters_ofLines, Block.filterMap_parameter?, List.mem_map] at member
    rcases member with ⟨block, _, rfl⟩
    exact ParamTag.isWellFormed_read block.text
  returnType type given := by
    rw [returnType_ofLines, Block.findSome?_returnType?, Option.mem_def] at given
    rcases List.exists_of_findSome?_eq_some given with ⟨block, _, isType⟩
    rcases ParamTag.parse_of_readType? isType with ⟨source, read⟩
    exact ⟨UnionType.ne_empty_of_parse read, UnionType.isWellFormed_of_parse read⟩

/-- Every comment that is read is well formed, and so is every parameter that is looked up in
it, which is never a placeholder. -/
theorem isWellFormed_parse (source : String) :
    (parse source).IsWellFormed ∧
      ∀ name offset, ∀ documented ∈ (parse source).parameterFor? name offset,
        documented.name ≠ "" ∧ isIdentifier documented.name.toList = true ∧
          documented.type.IsWellFormed := by
  have wellFormed := isWellFormed_ofLines (Line.all source.toList)
  refine ⟨wellFormed, ?_⟩
  intro name offset documented found
  rcases mem_parameters_of_parameterFor? found with ⟨member, named⟩
  have entry := wellFormed.parameters documented member
  exact ⟨named, entry.isIdentifier_of_named named, entry.type⟩

example :
    (parse "@param \x7bint $a\n@param A\\\\B $b\n@param int 2nd").parameters =
      [.placeholder, ⟨"b", ∅, false⟩, .placeholder] := by
  decide +kernel

end Comment

end ParamTypes
