import ParamTypes.Proofs.TypeExpr.Cut
import ParamTypes.Proofs.TypeExpr.Spelling

/-!
The grammar of type expressions and what its sentences mean: a name means one
atom, a member and an expression mean a list of atoms from left to right.

Reading a text gives its meaning, and fails if it has none
(`nameAtom_eq_ok_iff`, `memberAtoms_eq_ok_iff`, `atoms_eq_ok_iff`).
-/

namespace ParamTypes

open Text

namespace TypeExpr

/-! ## Grammar -/

/-- Whether a text is a spelling of a keyword, its main one or an alias, in
whatever case of ASCII letters. -/
def Spells (text : List Char) (word : Keyword) : Prop :=
  (String.ofList (text.map Char.toLower), word) ∈ Keyword.spellings

/-- The atom that a name means. A class is written with any number of separators
in front of its segments, and not like a keyword. -/
inductive NameMeans : List Char → Atom → Prop
  | keyword {text : List Char} {word : Keyword} (spelled : Spells text word) :
      NameMeans text (.keyword word)
  | className {count : Nat} {segments : List (List Char)} (nonempty : segments ≠ [])
      (identifiers : ∀ segment ∈ segments, isIdentifier segment = true)
      (noKeyword : ∀ word,
        ¬ Spells (List.replicate count '\\' ++ ['\\'].intercalate segments) word) :
      NameMeans (List.replicate count '\\' ++ ['\\'].intercalate segments)
        (.named (String.ofList (['\\'].intercalate segments)))

/-- The atoms that a member means. Of the forms of a member only the first two
overlap, and a question mark comes first. -/
inductive MemberMeans : List Char → List Atom → Prop
  | nullable {operand : List Char} {atoms : List Atom}
      (member : MemberMeans (trim operand) atoms) :
      MemberMeans ('?' :: operand) (.keyword .null :: atoms)
  | array {element : List Char} (notNullable : element.head? ≠ some '?') :
      MemberMeans (element ++ ['[', ']']) [.keyword .array]
  | group {inner : List Char} {pieces : List (List Char × List Atom)}
      (cut : IsCut inner (pieces.map Prod.fst))
      (members : ∀ piece ∈ pieces, MemberMeans (trim piece.1) piece.2) :
      MemberMeans ('(' :: (inner ++ [')'])) (pieces.flatMap Prod.snd)
  | generic {name blanks arguments : List Char} {atom : Atom}
      (named : NameMeans name atom) (areBlank : ∀ blank ∈ blanks, isBlank blank = true) :
      MemberMeans (name ++ (blanks ++ '<' :: (arguments ++ ['>']))) [atom]
  | name {text : List Char} {atom : Atom} (named : NameMeans text atom) :
      MemberMeans text [atom]

/-- The atoms that an expression means: those of its pieces, one after another. -/
def ExpressionMeans (text : List Char) (atoms : List Atom) : Prop :=
  ∃ pieces : List (List Char × List Atom),
    IsCut text (pieces.map Prod.fst) ∧
      (∀ piece ∈ pieces, MemberMeans (trim piece.1) piece.2) ∧
      atoms = pieces.flatMap Prod.snd

/-! ## Names -/

theorem ofWord?_ofList_eq_some_iff {text : List Char} {word : Keyword} :
    Keyword.ofWord? (String.ofList text) = some word ↔ Spells text word := by
  have onlyOnce : ∀ spelling ∈ Keyword.spellings,
      Keyword.spellings.lookup spelling.1 = some spelling.2 := by
    decide
  rw [Keyword.ofWord?, String.toList_ofList]
  constructor
  · intro spells
    rcases List.lookup_eq_some_iff.mp spells with ⟨before, after, parts, _⟩
    rw [Spells, parts]
    exact List.mem_append_right _ List.mem_cons_self
  · exact fun spelled => onlyOnce _ spelled

theorem ofWord?_ofList_eq_none_iff {text : List Char} :
    Keyword.ofWord? (String.ofList text) = none ↔ ∀ word, ¬ Spells text word := by
  simp only [Option.eq_none_iff_forall_ne_some, ne_eq, ofWord?_ofList_eq_some_iff]

theorem dropWhile_className {segments : List (List Char)}
    (identifiers : ∀ segment ∈ segments, isIdentifier segment = true) (count : Nat) :
    (List.replicate count '\\' ++ ['\\'].intercalate segments).dropWhile (· == '\\') =
      ['\\'].intercalate segments := by
  rw [dropWhile_replicate_append]
  apply dropWhile_of_head
  intro first begins
  cases segments with
  | nil => cases begins
  | cons segment others =>
      have identifier := identifiers segment List.mem_cons_self
      rcases exists_intercalate_cons ['\\'] segment others with ⟨rest, parts⟩
      rw [parts, List.head?_append_of_ne_nil _ (ne_nil_of_isIdentifier identifier)] at begins
      apply beq_false_of_ne
      rintro rfl
      exact not_mem_of_isIdentifier identifier (by decide) (List.mem_of_mem_head? begins)

theorem nameMeans_of_isClassName {text : List Char} (isName : isClassName text = true)
    (noKeyword : ∀ word, ¬ Spells text word) :
    NameMeans text (.ofClassName (String.ofList text)) := by
  let count := (text.takeWhile (· == '\\')).length
  let segments := (text.dropWhile (· == '\\')).splitOn '\\'
  have joined : ['\\'].intercalate segments = text.dropWhile (· == '\\') :=
    List.intercalate_splitOn '\\'
  have separators : text.takeWhile (· == '\\') = List.replicate count '\\' := by
    apply List.eq_replicate_of_mem
    intro character member
    have isSeparator := List.mem_takeWhile_imp member
    exact beq_iff_eq.mp isSeparator
  have parts : List.replicate count '\\' ++ ['\\'].intercalate segments = text := by
    rw [joined, ← separators, List.takeWhile_append_dropWhile]
  have means := @NameMeans.className count segments (List.splitOn_ne_nil '\\' _)
    (List.all_eq_true.mp isName) (parts.symm ▸ noKeyword)
  rw [parts, joined] at means
  rwa [Atom.ofClassName, String.toList_ofList]

theorem nameAtom_eq_ok_iff {text : List Char} {atom : Atom} :
    nameAtom text = .ok atom ↔ NameMeans text atom := by
  constructor
  · intro read
    rw [nameAtom] at read
    split at read
    · rename_i word spells
      cases read
      exact .keyword (ofWord?_ofList_eq_some_iff.mp spells)
    · rename_i noKeyword
      split at read
      · rename_i isName
        cases read
        exact nameMeans_of_isClassName isName (ofWord?_ofList_eq_none_iff.mp noKeyword)
      · cases read
  · intro means
    cases means with
    | keyword spelled => rw [nameAtom, ofWord?_ofList_eq_some_iff.mpr spelled]
    | className nonempty identifiers noKeyword =>
        rename_i count segments
        have isName :
            isClassName (List.replicate count '\\' ++ ['\\'].intercalate segments) = true := by
          rw [isClassName, dropWhile_className identifiers,
            List.splitOn_intercalate '\\' _ nonempty]
          · exact List.all_eq_true.mpr identifiers
          · exact fun segment member =>
              not_mem_of_isIdentifier (identifiers segment member) (by decide)
        simp only [nameAtom, ofWord?_ofList_eq_none_iff.mpr noKeyword, isName, if_true,
          Atom.ofClassName, String.toList_ofList, dropWhile_className identifiers]

/-! ## Characters of names -/

def isNamePart (character : Char) : Bool :=
  character == '\\' || isIdentifierPart character

theorem isNamePart_of_isIdentifierPart {character : Char}
    (part : isIdentifierPart character = true) : isNamePart character = true := by
  rw [isNamePart, part, Bool.or_true]

theorem isBlank_of_isNamePart {character : Char} (part : isNamePart character = true) :
    isBlank character = false := by
  rw [isNamePart, Bool.or_eq_true, beq_iff_eq] at part
  rcases part with rfl | part
  · decide
  · exact isBlank_of_isIdentifierPart part

def memberMarks : List Char :=
  ['?', '[', ']', '(', ')', '<', '>', '|']

theorem ne_of_isNamePart {character mark : Char} (part : isNamePart character = true)
    (isMark : mark ∈ memberMarks) : character ≠ mark := by
  rintro rfl
  have noPart : isNamePart character = false := eq_false_of_mem (by decide +kernel) isMark
  rw [part] at noPart
  cases noPart

theorem isNamePart_of_mem_intercalate {segments : List (List Char)}
    (identifiers : ∀ segment ∈ segments, isIdentifier segment = true) :
    ∀ character ∈ ['\\'].intercalate segments, isNamePart character = true := by
  intro character member
  rcases mem_intercalate member with separator | ⟨segment, isSegment, inSegment⟩
  · rw [List.mem_singleton.mp separator]
    rfl
  · exact isNamePart_of_isIdentifierPart
      (isIdentifierPart_of_mem (identifiers segment isSegment) inSegment)

theorem intercalate_ne_nil {segments : List (List Char)} (nonempty : segments ≠ [])
    (identifiers : ∀ segment ∈ segments, isIdentifier segment = true) :
    ['\\'].intercalate segments ≠ [] := by
  cases segments with
  | nil => contradiction
  | cons segment others =>
      have someText := ne_nil_of_isIdentifier (identifiers segment List.mem_cons_self)
      rcases exists_intercalate_cons ['\\'] segment others with ⟨rest, parts⟩
      rw [parts]
      exact List.append_ne_nil_of_left_ne_nil someText rest

theorem NameMeans.isNamePart_of_mem {text : List Char} {atom : Atom}
    (means : NameMeans text atom) : ∀ character ∈ text, isNamePart character = true := by
  cases means with
  | keyword spelled =>
      intro character member
      exact isNamePart_of_isIdentifierPart
        ((isIdentifierPart_of_ofWord? (ofWord?_ofList_eq_some_iff.mpr spelled)).2 character
          member)
  | className nonempty identifiers noKeyword =>
      intro character member
      rcases List.mem_append.mp member with separator | inName
      · rw [List.eq_of_mem_replicate separator]
        rfl
      · exact isNamePart_of_mem_intercalate identifiers character inName

theorem NameMeans.ne_nil {text : List Char} {atom : Atom} (means : NameMeans text atom) :
    text ≠ [] := by
  cases means with
  | keyword spelled =>
      exact (isIdentifierPart_of_ofWord? (ofWord?_ofList_eq_some_iff.mpr spelled)).1
  | className nonempty identifiers noKeyword =>
      exact List.append_ne_nil_of_right_ne_nil _ (intercalate_ne_nil nonempty identifiers)

theorem trim_of_isNamePart {text : List Char}
    (named : ∀ character ∈ text, isNamePart character = true) : trim text = text :=
  trim_of_ends
    (fun first begins => isBlank_of_isNamePart (named first (List.mem_of_mem_head? begins)))
    (fun last ends => isBlank_of_isNamePart (named last (List.mem_of_getLast? ends)))

theorem NameMeans.isPlain_of_mem {text : List Char} {atom : Atom}
    (means : NameMeans text atom) : ∀ character ∈ text, isPlain character = true :=
  fun character member =>
    isPlain_of_holds (by decide +kernel) (means.isNamePart_of_mem character member)

theorem NameMeans.not_mem {text : List Char} {atom : Atom} (means : NameMeans text atom)
    {mark : Char} (isMark : mark ∈ memberMarks) : mark ∉ text :=
  fun member => ne_of_isNamePart (means.isNamePart_of_mem mark member) isMark rfl

/-! ## Names with generic arguments -/

theorem genericBase_of_name {text : List Char}
    (named : ∀ character ∈ text, isNamePart character = true) :
    genericBase text = .ok text := by
  have noArguments : '<' ∉ text := fun member =>
    ne_of_isNamePart (named '<' member) (by decide) rfl
  rw [genericBase, if_pos noArguments]

theorem getLast?_arguments (name blanks arguments : List Char) :
    (name ++ (blanks ++ '<' :: (arguments ++ ['>']))).getLast? = some '>' := by
  have parts : name ++ (blanks ++ '<' :: (arguments ++ ['>'])) =
      (name ++ (blanks ++ '<' :: arguments)) ++ ['>'] := by
    simp
  rw [parts, List.getLast?_concat]

theorem genericBase_of_arguments {name blanks : List Char}
    (named : ∀ character ∈ name, isNamePart character = true)
    (areBlank : ∀ blank ∈ blanks, isBlank blank = true) (arguments : List Char) :
    genericBase (name ++ (blanks ++ '<' :: (arguments ++ ['>']))) = .ok name := by
  have opened : '<' ∈ name ++ (blanks ++ '<' :: (arguments ++ ['>'])) := by simp
  have front : (name ++ (blanks ++ '<' :: (arguments ++ ['>']))).takeWhile (· ≠ '<') =
      name ++ blanks := by
    rw [← List.append_assoc]
    apply takeWhile_append_of_head
    · intro character member
      rw [decide_eq_true_eq]
      rcases List.mem_append.mp member with inName | inBlanks
      · exact ne_of_isNamePart (named character inName) (by decide)
      · rintro rfl
        exact absurd (areBlank '<' inBlanks) (by decide)
    · intro character begins
      cases begins
      rfl
  have trimmed : trimEnd (name ++ blanks) = name := by
    rw [trimEnd_append areBlank, trimEnd, dropEndWhile_of_last]
    exact fun last ends => isBlank_of_isNamePart (named last (List.mem_of_getLast? ends))
  rw [genericBase, if_neg (not_not_intro opened),
    if_pos (getLast?_arguments name blanks arguments), front, trimmed]

theorem exists_of_mem_angle {text : List Char} (opened : '<' ∈ text) :
    ∃ rest, text = text.takeWhile (· ≠ '<') ++ '<' :: rest := by
  have parts : text.takeWhile (· ≠ '<') ++ text.dropWhile (· ≠ '<') = text :=
    List.takeWhile_append_dropWhile
  cases behind : text.dropWhile (· ≠ '<') with
  | nil =>
      have all := List.dropWhile_eq_nil_iff.mp behind '<' opened
      simp at all
  | cons first rest =>
      have stops := List.head?_dropWhile_not (· ≠ '<') text
      rw [behind] at stops parts
      have isAngle : first = '<' := by simpa using stops
      rw [isAngle] at parts
      exact ⟨rest, parts.symm⟩

theorem genericBase_eq_ok_cases {text name : List Char} (read : genericBase text = .ok name) :
    text = name ∨
      ∃ blanks arguments : List Char, (∀ blank ∈ blanks, isBlank blank = true) ∧
        text = name ++ (blanks ++ '<' :: (arguments ++ ['>'])) := by
  rw [genericBase] at read
  split at read
  · cases read
    exact .inl rfl
  · rename_i opened
    split at read
    · rename_i closed
      cases read
      right
      rcases exists_of_mem_angle (not_not.mp opened) with ⟨rest, parts⟩
      rcases exists_trimEnd (text.takeWhile (· ≠ '<')) with ⟨blanks, front, areBlank⟩
      have ends : ('<' :: rest).getLast? = some '>' := by
        rwa [parts, List.getLast?_append_of_ne_nil _ (List.cons_ne_nil _ _)] at closed
      have nonempty : rest ≠ [] := by
        rintro rfl
        cases ends
      rw [← List.singleton_append, List.getLast?_append_of_ne_nil _ nonempty] at ends
      rcases List.getLast?_eq_some_iff.mp ends with ⟨arguments, rfl⟩
      refine ⟨blanks, arguments, areBlank, ?_⟩
      rw [← List.append_assoc, ← front]
      exact parts
    · cases read

/-! ## Members -/

theorem memberMeans_of_memberAtoms {text : List Char} {found : List Atom}
    (read : memberAtoms text = .ok found) : MemberMeans text found := by
  -- What stands inside is trimmed before it is read, so the induction is on the length.
  induction size : text.length using Nat.strongRecOn generalizing text found with
  | ind length induction =>
      rw [memberAtoms.eq_def] at read
      split at read
      · cases read
      · rename_i operand
        rcases bind_eq_ok_iff.mp read with ⟨others, readOperand, isFound⟩
        cases isFound
        exact .nullable (induction _ (size ▸ length_trim_lt_cons '?' operand) readOperand rfl)
      · rename_i first rest notNullable
        split at read
        · rename_i marked
          rcases Option.isSome_iff_exists.mp marked with ⟨element, isArray⟩
          cases read
          rw [stripEnd?_eq_some_iff] at isArray
          rw [isArray]
          apply MemberMeans.array
          intro begins
          rcases List.head?_eq_some_iff.mp begins with ⟨others, rfl⟩
          exact notNullable (List.cons.inj isArray).1
        · split at read
          · rename_i inner group
            split at read
            · rename_i pieces cut
              rcases pieceAtoms_eq_ok_iff.mp read with ⟨readPieces, rfl, members, rfl⟩
              have shorter (piece : List Char × List Atom) (member : piece ∈ readPieces) :
                  (trim piece.1).length < length :=
                size ▸ length_trim_lt_of_group group cut (List.mem_map_of_mem member)
              rw [grouped?_eq_some_iff.mp group]
              exact .group (pieces?_eq_some_iff.mp cut) fun piece member =>
                induction _ (shorter piece member) (members piece member) rfl
            · cases read
          · rcases bind_eq_ok_iff.mp read with ⟨atom, readName, isFound⟩
            cases isFound
            rcases bind_eq_ok_iff.mp readName with ⟨name, isBase, isAtom⟩
            have means := nameAtom_eq_ok_iff.mp isAtom
            rcases genericBase_eq_ok_cases isBase with same | ⟨blanks, arguments, areBlank, same⟩
            · rw [same]
              exact .name means
            · rw [same]
              exact .generic means areBlank

theorem memberAtoms_of_head {text : List Char} (nonempty : text ≠ [])
    (notNullable : text.head? ≠ some '?') :
    memberAtoms text =
      if (stripEnd? ['[', ']'] text).isSome then
        .ok [.keyword .array]
      else
        match grouped? text with
        | some inner =>
            match pieces? inner with
            | some pieces => pieceAtoms pieces
            | none => .error .unbalancedBrackets
        | none => do
            let atom ← genericBase text >>= nameAtom
            return [atom] := by
  rw [memberAtoms.eq_def]
  split
  · contradiction
  · exact absurd rfl notNullable
  · congr 1
    split
    · rename_i inner group
      rw [group]
      split
      · rename_i pieces cut
        simp only [cut]
      · rename_i unbalanced
        simp only [unbalanced]
    · rename_i noGroup
      rw [noGroup]

theorem grouped?_eq_none_of_head {text : List Char} (begins : text.head? ≠ some '(') :
    grouped? text = none := by
  rw [Option.eq_none_iff_forall_ne_some]
  intro inner group
  rw [grouped?_eq_some_iff.mp group] at begins
  exact begins rfl

theorem memberAtoms_of_named {text : List Char} {atom : Atom} {first : Char}
    (begins : text.head? = some first) (named : isNamePart first = true)
    (notArray : text.getLast? ≠ some ']')
    (read : genericBase text >>= nameAtom = .ok atom) : memberAtoms text = .ok [atom] := by
  have nonempty : text ≠ [] := by
    rintro rfl
    cases begins
  have notNullable : text.head? ≠ some '?' := by
    rw [begins]
    exact fun same => ne_of_isNamePart named (by decide) (Option.some.inj same)
  have noArray : stripEnd? ['[', ']'] text = none :=
    stripEnd?_eq_none_of_last (by simp) notArray
  have noGroup : grouped? text = none := by
    apply grouped?_eq_none_of_head
    rw [begins]
    exact fun same => ne_of_isNamePart named (by decide) (Option.some.inj same)
  rw [memberAtoms_of_head nonempty notNullable, noArray, noGroup]
  exact bind_eq_ok_iff.mpr ⟨atom, read, rfl⟩

theorem NameMeans.exists_head {text : List Char} {atom : Atom} (means : NameMeans text atom) :
    ∃ first, text.head? = some first ∧ isNamePart first = true :=
  ⟨text.head means.ne_nil, List.head?_eq_some_head means.ne_nil,
    means.isNamePart_of_mem _ (List.head_mem means.ne_nil)⟩

theorem memberAtoms_of_memberMeans {text : List Char} {atoms : List Atom}
    (means : MemberMeans text atoms) : memberAtoms text = .ok atoms := by
  induction means with
  | nullable member induction =>
      rw [memberAtoms, induction]
      rfl
  | @array element notNullable =>
      have notNullable : (element ++ ['[', ']']).head? ≠ some '?' := by
        cases element with
        | nil => decide
        | cons first rest => exact notNullable
      have isArray : stripEnd? ['[', ']'] (element ++ ['[', ']']) = some element :=
        stripEnd?_eq_some_iff.mpr rfl
      rw [memberAtoms_of_head (by simp) notNullable, isArray]
      rfl
  | @group inner pieces cut members induction =>
      have ends : ('(' :: (inner ++ [')'])).getLast? = some ')' := by
        rw [← List.cons_append, List.getLast?_concat]
      have noArray : stripEnd? ['[', ']'] ('(' :: (inner ++ [')'])) = none :=
        stripEnd?_eq_none_of_last (by simp) (by rw [ends]; decide)
      rw [memberAtoms_of_head (List.cons_ne_nil _ _) (by simp), noArray,
        grouped?_eq_some_iff.mpr rfl]
      simp only [Option.isSome_none, Bool.false_eq_true, if_false,
        pieces?_eq_some_iff.mpr cut]
      exact pieceAtoms_eq_ok_iff.mpr ⟨pieces, rfl, induction, rfl⟩
  | @generic name blanks arguments atom named areBlank =>
      rcases named.exists_head with ⟨first, begins, isNamed⟩
      apply memberAtoms_of_named _ isNamed
      · rw [getLast?_arguments]
        decide
      · rw [genericBase_of_arguments named.isNamePart_of_mem areBlank]
        exact nameAtom_eq_ok_iff.mpr named
      · rw [List.head?_append_of_ne_nil _ named.ne_nil, begins]
  | @name text atom named =>
      rcases named.exists_head with ⟨first, begins, isNamed⟩
      apply memberAtoms_of_named begins isNamed
      · intro ends
        exact ne_of_isNamePart (named.isNamePart_of_mem _ (List.mem_of_getLast? ends))
          (by decide) rfl
      · rw [genericBase_of_name named.isNamePart_of_mem]
        exact nameAtom_eq_ok_iff.mpr named

theorem memberAtoms_eq_ok_iff {text : List Char} {atoms : List Atom} :
    memberAtoms text = .ok atoms ↔ MemberMeans text atoms :=
  ⟨memberMeans_of_memberAtoms, memberAtoms_of_memberMeans⟩

/-! ## Expressions -/

theorem ne_nil_of_memberMeans {text : List Char} {atoms : List Atom}
    (means : MemberMeans text atoms) : text ≠ [] := by
  rintro rfl
  have read := memberAtoms_of_memberMeans means
  rw [memberAtoms] at read
  cases read

theorem ne_nil_of_expressionMeans {text : List Char} {atoms : List Atom}
    (means : ExpressionMeans text atoms) : text ≠ [] := by
  rintro rfl
  rcases means with ⟨pieces, cut, members, _⟩
  rcases List.map_eq_singleton_iff.mp (isCut_nil_iff.mp cut) with ⟨piece, rfl, isNil⟩
  have member := members piece (List.mem_singleton_self piece)
  rw [isNil] at member
  exact ne_nil_of_memberMeans member rfl

theorem atoms_eq_ok_iff {text : List Char} {found : List Atom} :
    atoms text = .ok found ↔ ExpressionMeans (trim text) found := by
  rw [atoms]
  constructor
  · intro read
    split at read
    · cases read
    · split at read
      · rename_i pieces cut
        rcases pieceAtoms_eq_ok_iff.mp read with ⟨readPieces, rfl, members, rfl⟩
        exact ⟨readPieces, pieces?_eq_some_iff.mp cut,
          fun piece member => memberAtoms_eq_ok_iff.mp (members piece member), rfl⟩
      · cases read
  · intro means
    have nonempty : ¬ (trim text).isEmpty = true := by
      simpa using ne_nil_of_expressionMeans means
    rcases means with ⟨pieces, cut, members, rfl⟩
    rw [if_neg nonempty, pieces?_eq_some_iff.mpr cut]
    exact pieceAtoms_eq_ok_iff.mpr ⟨pieces, rfl,
      fun piece member => memberAtoms_eq_ok_iff.mpr (members piece member), rfl⟩

end TypeExpr

namespace UnionType

theorem parse_eq_ok_iff_exists {source : String} {type : UnionType} :
    parse source = .ok type ↔
      ∃ found, TypeExpr.ExpressionMeans (trim source.toList) found ∧ type = .ofList found := by
  rw [← String.ofList_toList (s := source), parse_ofList_eq_ok_iff, String.toList_ofList]
  simp only [TypeExpr.atoms_eq_ok_iff]

/-- A type can be read from a text exactly if the text, without the blanks around
it, is an expression that has a meaning. The type has the atoms of this meaning,
each where it occurs first. -/
theorem parse_eq_ok_iff (source : String) (type : UnionType) :
    parse source = .ok type ↔
      trim source.toList ≠ [] ∧
        ∃ atoms, TypeExpr.ExpressionMeans (trim source.toList) atoms ∧
          type.toList = atoms.eraseDups := by
  have byAtoms (found : List Atom) :
      type = OrderedSet.ofList found ↔ type.toList = found.eraseDups := by
    rw [← OrderedSet.toList_ofList]
    constructor
    · rintro rfl
      rfl
    · exact OrderedSet.ext
  simp only [parse_eq_ok_iff_exists, byAtoms]
  constructor
  · rintro ⟨found, means, isType⟩
    exact ⟨TypeExpr.ne_nil_of_expressionMeans means, found, means, isType⟩
  · rintro ⟨_, found, means, isType⟩
    exact ⟨found, means, isType⟩

end UnionType

end ParamTypes
