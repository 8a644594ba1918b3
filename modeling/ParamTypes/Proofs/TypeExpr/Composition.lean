import ParamTypes.Proofs.OrderedSet
import ParamTypes.Proofs.TypeExpr.Grammar

/-!
Type expressions that are composed of others: unions, groups, nullable and generic
types. The type of the whole follows from the types of the parts, and the whole can
be read exactly if they can (`UnionType.parse_composed`).
-/

namespace ParamTypes

open Text

namespace TypeExpr

/-! ## Pieces -/

theorem pieceAtoms_map_trim (pieces : List (List Char)) :
    pieceAtoms (pieces.map trim) = pieceAtoms pieces := by
  induction pieces with
  | nil => rfl
  | cons piece pieces induction =>
      rw [List.map_cons, pieceAtoms, pieceAtoms, trim_trim, induction]

theorem pieceAtoms_append_eq_ok_iff {first second : List (List Char)} {found : List Atom} :
    pieceAtoms (first ++ second) = .ok found ↔
      ∃ atoms others, pieceAtoms first = .ok atoms ∧ pieceAtoms second = .ok others ∧
        found = atoms ++ others := by
  induction first generalizing found with
  | nil =>
      rw [List.nil_append, pieceAtoms]
      constructor
      · intro read
        exact ⟨[], found, rfl, read, rfl⟩
      · intro parts
        rcases parts with ⟨atoms, others, isNil, read, rfl⟩
        cases isNil
        exact read
  | cons piece pieces induction =>
      rw [List.cons_append, pieceAtoms, pieceAtoms]
      simp only [bind_eq_ok_iff, induction]
      constructor
      · intro read
        rcases read with ⟨head, isHead, _, ⟨atoms, others, areAtoms, areOthers, rfl⟩, isFound⟩
        cases isFound
        exact ⟨head ++ atoms, others, ⟨head, isHead, atoms, areAtoms, rfl⟩, areOthers,
          (List.append_assoc _ _ _).symm⟩
      · intro parts
        rcases parts with ⟨_, others, ⟨head, isHead, atoms, areAtoms, isFirst⟩, areOthers, rfl⟩
        cases isFirst
        exact ⟨head, isHead, _, ⟨atoms, others, areAtoms, areOthers, rfl⟩,
          congrArg Except.ok (List.append_assoc _ _ _).symm⟩

/-- Whether the blanks around an expression are cut off before it is cut into pieces
makes no difference to what is read. -/
theorem atoms_eq_ok_iff_pieces {text : List Char} {found : List Atom} :
    atoms text = .ok found ↔
      ∃ pieces, pieces? text = some pieces ∧ pieceAtoms pieces = .ok found := by
  have same : (pieces? (trim text)).map pieceAtoms = (pieces? text).map pieceAtoms := by
    have trimmed := congrArg (Option.map pieceAtoms) (map_trim_pieces? text)
    simpa only [Option.map_map, Function.comp_def, pieceAtoms_map_trim] using trimmed
  have byPieces : (∃ pieces, pieces? text = some pieces ∧ pieceAtoms pieces = .ok found) ↔
      (pieces? (trim text)).map pieceAtoms = some (.ok found) := by
    rw [same, Option.map_eq_some_iff]
  rw [byPieces, atoms]
  by_cases nothing : trim text = []
  · have empty : pieceAtoms [[]] = .error .emptyMember := by
      rw [pieceAtoms, show trim [] = [] from rfl, memberAtoms]
      rfl
    have alone : pieces? [] = some [[]] := rfl
    rw [nothing, if_pos List.isEmpty_nil, alone, Option.map_some, empty]
    constructor <;> intro impossible <;> cases impossible
  · rw [if_neg (by simpa using nothing)]
    cases pieces? (trim text) with
    | none => constructor <;> intro impossible <;> cases impossible
    | some pieces => rw [Option.map_some, Option.some.injEq]

/-! ## Composed expressions -/

theorem atoms_append_bar_eq_ok_iff {first second : List Char} (balanced : IsBalanced first)
    {found : List Atom} :
    atoms (first ++ '|' :: second) = .ok found ↔
      ∃ some others, atoms first = .ok some ∧ atoms second = .ok others ∧
        found = some ++ others := by
  rcases exists_isCut balanced with ⟨pieces, cut⟩
  have firstCut := pieces?_of_isCut cut
  simp only [atoms_eq_ok_iff_pieces, pieces?_append_bar cut, firstCut]
  constructor
  · intro read
    rcases read with ⟨_, whole, read⟩
    rcases Option.map_eq_some_iff.mp whole with ⟨later, secondCut, rfl⟩
    rcases pieceAtoms_append_eq_ok_iff.mp read with ⟨atoms, others, areAtoms, areOthers, rfl⟩
    exact ⟨atoms, others, ⟨pieces, rfl, areAtoms⟩, ⟨later, secondCut, areOthers⟩, rfl⟩
  · intro parts
    rcases parts with ⟨atoms, others, ⟨_, same, areAtoms⟩, ⟨later, secondCut, areOthers⟩, rfl⟩
    cases same
    refine ⟨pieces ++ later, ?_, ?_⟩
    · rw [secondCut, Option.map_some]
    · exact pieceAtoms_append_eq_ok_iff.mpr ⟨atoms, others, areAtoms, areOthers, rfl⟩

theorem pieceAtoms_singleton {piece : List Char} :
    pieceAtoms [piece] = memberAtoms (trim piece) := by
  rw [pieceAtoms, pieceAtoms]
  cases memberAtoms (trim piece) with
  | error fault => rfl
  | ok atoms => exact congrArg Except.ok (List.append_nil atoms)

theorem atoms_group_eq_ok_iff {inner : List Char} (balanced : IsBalanced inner)
    {found : List Atom} :
    atoms ('(' :: (inner ++ [')'])) = .ok found ↔ atoms inner = .ok found := by
  have opens : depthStep? 0 '(' = some 1 := rfl
  have closes : depthStep? 1 ')' = some 0 := rfl
  have cut := pieces?_of_isCut (isCut_bracketed opens closes (by decide)
    (List.forall_mem_nil _) List.not_mem_nil balanced)
  have ends : ('(' :: (inner ++ [')'])).getLast? = some ')' := by
    rw [← List.cons_append, List.getLast?_concat]
  have trimmed : trim ('(' :: (inner ++ [')'])) = '(' :: (inner ++ [')']) := by
    apply trim_of_ends
    · intro first begins
      cases begins
      decide
    · intro last isLast
      rw [ends] at isLast
      cases isLast
      decide
  have noArray : stripEnd? ['[', ']'] ('(' :: (inner ++ [')'])) = none :=
    stripEnd?_eq_none_of_last (List.cons_ne_nil _ _) (by rw [ends]; decide)
  rcases exists_isCut balanced with ⟨pieces, innerCut⟩
  have isInner := pieces?_of_isCut innerCut
  have member : memberAtoms ('(' :: (inner ++ [')'])) = pieceAtoms pieces := by
    rw [memberAtoms_of_head (List.cons_ne_nil _ _) (by simp), noArray,
      grouped?_eq_some_iff.mpr rfl]
    simp only [Option.isSome_none, Bool.false_eq_true, if_false, isInner]
  rw [atoms_eq_ok_iff_pieces, atoms_eq_ok_iff_pieces, isInner]
  rw [List.nil_append] at cut
  rw [cut]
  simp only [Option.some.injEq, exists_eq_left', pieceAtoms_singleton, trimmed, member]

theorem trim_nullable (operand : List Char) : trim ('?' :: operand) = '?' :: trimEnd operand := by
  have visible : isBlank '?' = false := by decide
  have stays : ∀ character ∈ ['?'], isBlank character = false :=
    List.forall_mem_singleton.mpr visible
  rw [trim, trimStart_of_head, ← List.singleton_append]
  · exact dropEndWhile_append_of_last (fun last ends => stays last (List.mem_of_getLast? ends))
      operand
  · intro first begins
    cases begins
    exact visible

theorem atoms_nullable_eq_ok_iff {text : List Char} {found : List Atom} :
    atoms ('?' :: text) = .ok found ↔
      ∃ others, atoms text = .ok others ∧ found = .keyword .null :: others := by
  have cut : pieces? ('?' :: text) = (pieces? text).map (extendFirst '?') := rfl
  have member (first : List Char) (others : List (List Char)) :
      pieceAtoms (('?' :: first) :: others) =
        (pieceAtoms (first :: others)).map (.keyword .null :: ·) := by
    rw [pieceAtoms, trim_nullable, memberAtoms, trim_trimEnd, pieceAtoms]
    cases memberAtoms (trim first) with
    | error fault => rfl
    | ok atoms => cases pieceAtoms others <;> rfl
  -- The question mark joins the first piece, whatever the others are.
  simp only [atoms_eq_ok_iff_pieces, cut, Option.map_eq_some_iff]
  constructor
  · intro read
    rcases read with ⟨_, ⟨pieces, isCut, rfl⟩, read⟩
    rcases List.exists_cons_of_ne_nil (intercalate_of_piecesAt? isCut).1 with
      ⟨first, others, rfl⟩
    rw [extendFirst, member] at read
    cases operand : pieceAtoms (first :: others) with
    | error fault =>
        rw [operand] at read
        cases read
    | ok atoms =>
        rw [operand] at read
        cases read
        exact ⟨atoms, ⟨_, isCut, operand⟩, rfl⟩
  · intro parts
    rcases parts with ⟨atoms, ⟨pieces, isCut, read⟩, rfl⟩
    rcases List.exists_cons_of_ne_nil (intercalate_of_piecesAt? isCut).1 with
      ⟨first, others, rfl⟩
    refine ⟨_, ⟨_, isCut, rfl⟩, ?_⟩
    rw [extendFirst, member, read]
    rfl

theorem atoms_name {name : List Char} {atom : Atom} (means : NameMeans name atom) :
    atoms name = .ok [atom] := by
  have cut := isCut_of_barsEnclosed (depthAfter?_of_plain means.isPlain_of_mem 0)
    (barsEnclosed_of_not_mem (means.not_mem (by decide)) 0)
  rw [atoms_eq_ok_iff_pieces]
  refine ⟨_, pieces?_of_isCut cut, ?_⟩
  rw [pieceAtoms_singleton, trim_of_isNamePart means.isNamePart_of_mem]
  exact memberAtoms_of_memberMeans (.name means)

theorem atoms_generic {name arguments : List Char} {atom : Atom} (means : NameMeans name atom)
    (balanced : IsBalanced arguments) :
    atoms (name ++ '<' :: (arguments ++ ['>'])) = .ok [atom] := by
  have opens : depthStep? 0 '<' = some 1 := rfl
  have closes : depthStep? 1 '>' = some 0 := rfl
  have cut := isCut_bracketed opens closes (by decide) means.isPlain_of_mem
    (means.not_mem (by decide)) balanced
  have member : MemberMeans (name ++ '<' :: (arguments ++ ['>'])) [atom] := by
    have generic := @MemberMeans.generic name [] arguments atom means (List.forall_mem_nil _)
    rwa [List.nil_append] at generic
  have trimmed : trim (name ++ '<' :: (arguments ++ ['>'])) =
      name ++ '<' :: (arguments ++ ['>']) := by
    apply trim_of_ends
    · intro first begins
      rw [List.head?_append_of_ne_nil _ means.ne_nil] at begins
      exact isBlank_of_isNamePart (means.isNamePart_of_mem first (List.mem_of_mem_head? begins))
    · intro last ends
      rw [← List.nil_append ('<' :: _), getLast?_arguments name [] arguments] at ends
      cases ends
      decide
  rw [atoms_eq_ok_iff_pieces]
  refine ⟨_, pieces?_of_isCut cut, ?_⟩
  rw [pieceAtoms_singleton, trimmed]
  exact memberAtoms_of_memberMeans member

theorem exists_nameMeans {name : String}
    (isName : (Keyword.ofWord? name).isSome ∨ isClassName name.toList) :
    ∃ atom, NameMeans name.toList atom := by
  cases spells : Keyword.ofWord? name with
  | some word =>
      rw [← String.ofList_toList (s := name), ofWord?_ofList_eq_some_iff] at spells
      exact ⟨_, .keyword spells⟩
  | none =>
      have isClass : isClassName name.toList = true := by
        rcases isName with isKeyword | isClass
        · rw [spells] at isKeyword
          cases isKeyword
        · exact isClass
      rw [← String.ofList_toList (s := name), ofWord?_ofList_eq_none_iff] at spells
      exact ⟨_, nameMeans_of_isClassName isClass spells⟩

end TypeExpr

/-! ## Types of composed expressions -/

namespace UnionType

theorem parse_eq_ok_iff_atoms {source : String} {type : UnionType} :
    parse source = .ok type ↔
      ∃ found, TypeExpr.atoms source.toList = .ok found ∧ type = .ofList found := by
  rw [← parse_ofList_eq_ok_iff, String.ofList_toList]

theorem toList_ofList_null_cons (atoms : List Atom) :
    (OrderedSet.ofList (.keyword .null :: atoms)).toList =
      .keyword .null :: (OrderedSet.ofList atoms).toList.filter (· ≠ .keyword .null) := by
  have others : (fun atom : Atom => !atom == .keyword .null) =
      fun atom => decide (atom ≠ .keyword .null) := by
    funext atom
    simp [BEq.beq]
  rw [OrderedSet.toList_ofList, OrderedSet.toList_ofList, List.eraseDups_cons, others,
    OrderedSet.eraseDups_filter]

/-- A union behind a balanced expression has the atoms of the two types, and cannot be
read if one of them cannot. Parentheses around a balanced expression change nothing,
and neither does such an expression as the argument of a name. A question mark in
front of any text puts null before the other atoms. -/
theorem parse_composed (source : String) :
    (TypeExpr.IsBalanced source.toList →
      (∀ (other : String) (type : UnionType),
        parse (source ++ "|" ++ other) = .ok type ↔
          ∃ first second, parse source = .ok first ∧ parse other = .ok second ∧
            type = first ∪ second) ∧
      (∀ type, parse ("(" ++ source ++ ")") = .ok type ↔ parse source = .ok type) ∧
      ∀ name : String,
        (Keyword.ofWord? name).isSome ∨ TypeExpr.isClassName name.toList →
          parse (name ++ "<" ++ source ++ ">") = parse name) ∧
      ∀ type, parse ("?" ++ source) = .ok type ↔
        ∃ operand, parse source = .ok operand ∧
          type.toList = .keyword .null :: operand.toList.filter (· ≠ .keyword .null) := by
  refine ⟨fun balanced => ⟨?_, ?_, ?_⟩, ?_⟩
  · intro other type
    have parts : (source ++ "|" ++ other).toList = source.toList ++ '|' :: other.toList := by
      simp only [String.toList_append, List.append_assoc]
      rfl
    simp only [parse_eq_ok_iff_atoms, parts, TypeExpr.atoms_append_bar_eq_ok_iff balanced]
    constructor
    · intro read
      rcases read with ⟨_, ⟨atoms, others, areAtoms, areOthers, rfl⟩, rfl⟩
      exact ⟨_, _, ⟨atoms, areAtoms, rfl⟩, ⟨others, areOthers, rfl⟩,
        OrderedSet.ofList_append atoms others⟩
    · intro parts
      rcases parts with ⟨_, _, ⟨atoms, areAtoms, rfl⟩, ⟨others, areOthers, rfl⟩, rfl⟩
      exact ⟨_, ⟨atoms, others, areAtoms, areOthers, rfl⟩,
        (OrderedSet.ofList_append atoms others).symm⟩
  · intro type
    have parts : ("(" ++ source ++ ")").toList = '(' :: (source.toList ++ [')']) := by
      simp only [String.toList_append]
      rfl
    simp only [parse_eq_ok_iff_atoms, parts, TypeExpr.atoms_group_eq_ok_iff balanced]
  · intro name isName
    rcases TypeExpr.exists_nameMeans isName with ⟨atom, means⟩
    have parts : (name ++ "<" ++ source ++ ">").toList =
        name.toList ++ '<' :: (source.toList ++ ['>']) := by
      simp only [String.toList_append, List.append_assoc]
      rfl
    have plain : parse name = .ok (.ofList [atom]) :=
      parse_eq_ok_iff_atoms.mpr ⟨_, TypeExpr.atoms_name means, rfl⟩
    rw [plain, parse_eq_ok_iff_atoms, parts]
    exact ⟨_, TypeExpr.atoms_generic means balanced, rfl⟩
  · intro type
    have parts : ("?" ++ source).toList = '?' :: source.toList := by
      rw [String.toList_append]
      rfl
    simp only [parse_eq_ok_iff_atoms, parts, TypeExpr.atoms_nullable_eq_ok_iff]
    constructor
    · intro read
      rcases read with ⟨_, ⟨others, areOthers, rfl⟩, rfl⟩
      exact ⟨_, ⟨others, areOthers, rfl⟩, toList_ofList_null_cons others⟩
    · intro parts
      rcases parts with ⟨_, ⟨others, areOthers, rfl⟩, isType⟩
      refine ⟨_, ⟨others, areOthers, rfl⟩, OrderedSet.ext ?_⟩
      rw [isType, toList_ofList_null_cons]

theorem parse_composed_group :
    TypeExpr.IsBalanced "null|array<int | A>".toList ∧
      parse "?null|array<int | A>" = .ok (.ofList [.keyword .null, .keyword .array]) ∧
      parse "(null|array<int | A>)" = .ok (.ofList [.keyword .null, .keyword .array]) ∧
      parse "null|array<int | A>| ?\\A\\B" =
        .ok (.ofList [.keyword .null, .keyword .array, .named "A\\B"]) ∧
      parse "list<null|array<int | A>>" = parse "list" := by
  have balanced : TypeExpr.IsBalanced "null|array<int | A>".toList := by decide
  have read : parse "null|array<int | A>" = .ok (.ofList [.keyword .null, .keyword .array]) := by
    decide +kernel
  have composed := parse_composed "null|array<int | A>"
  rcases composed.1 balanced with ⟨union, group, generic⟩
  refine ⟨balanced, ?_, ?_, ?_, ?_⟩
  · exact (composed.2 _).mpr ⟨_, read, by decide⟩
  · exact (group _).mpr read
  · exact (union " ?\\A\\B" _).mpr ⟨_, .ofList [.keyword .null, .named "A\\B"], read,
      by decide +kernel, by decide⟩
  · exact generic "list" (.inl (by decide))

end UnionType

end ParamTypes
