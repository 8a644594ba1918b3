import Mathlib
import ParamTypes.Proofs.TypeExpr.Brackets
import ParamTypes.TypeExpr.Members

/-!
Spellings of types: texts that can be read as type expressions. Blanks around a
spelling do not count, its brackets are balanced, and it ends in a name or in a
closing bracket.
-/

namespace ParamTypes

open Text

namespace TypeExpr

/-! ## Faults and atoms -/

theorem bind_eq_ok_iff {first : Except ε α} {next : α → Except ε β} {result : β} :
    first >>= next = .ok result ↔ ∃ middle, first = .ok middle ∧ next middle = .ok result := by
  cases first with
  | error fault =>
      constructor
      · intro read
        cases read
      · intro step
        rcases step with ⟨middle, impossible, _⟩
        cases impossible
  | ok value =>
      constructor
      · exact fun read => ⟨value, rfl, read⟩
      · intro step
        rcases step with ⟨middle, same, read⟩
        cases same
        exact read

theorem pieceAtoms_eq_ok_iff {pieces : List (List Char)} {found : List Atom} :
    pieceAtoms pieces = .ok found ↔
      ∃ read : List (List Char × List Atom), read.map Prod.fst = pieces ∧
        (∀ piece ∈ read, memberAtoms (trim piece.1) = .ok piece.2) ∧
        found = read.flatMap Prod.snd := by
  induction pieces generalizing found with
  | nil =>
      rw [pieceAtoms]
      constructor
      · intro read
        cases read
        exact ⟨[], rfl, by simp, rfl⟩
      · rintro ⟨read, noPieces, _, rfl⟩
        rw [List.map_eq_nil_iff.mp noPieces]
        rfl
  | cons piece pieces induction =>
      rw [pieceAtoms, bind_eq_ok_iff]
      constructor
      · rintro ⟨atoms, readPiece, readOthers⟩
        rcases bind_eq_ok_iff.mp readOthers with ⟨others, readRest, isFound⟩
        cases isFound
        rcases induction.mp readRest with ⟨read, rfl, members, rfl⟩
        exact ⟨(piece, atoms) :: read, rfl, List.forall_mem_cons.mpr ⟨readPiece, members⟩, rfl⟩
      · rintro ⟨read, arePieces, members, rfl⟩
        rcases List.map_eq_cons_iff.mp arePieces with ⟨first, others, rfl, rfl, rfl⟩
        rw [List.forall_mem_cons] at members
        refine ⟨first.2, members.1, bind_eq_ok_iff.mpr ⟨others.flatMap Prod.snd, ?_, rfl⟩⟩
        exact induction.mpr ⟨others, rfl, members.2, rfl⟩

theorem exists_memberAtoms_of_pieceAtoms {pieces : List (List Char)} {found : List Atom}
    (read : pieceAtoms pieces = .ok found) {piece : List Char} (member : piece ∈ pieces) :
    ∃ atoms, memberAtoms (trim piece) = .ok atoms := by
  rcases pieceAtoms_eq_ok_iff.mp read with ⟨readPieces, rfl, members, _⟩
  rcases List.mem_map.mp member with ⟨readPiece, isPiece, rfl⟩
  exact ⟨readPiece.2, members readPiece isPiece⟩

theorem grouped?_eq_some_iff {text inner : List Char} :
    grouped? text = some inner ↔ text = '(' :: (inner ++ [')']) := by
  constructor
  · intro group
    rw [grouped?.eq_def] at group
    split at group
    · rw [stripEnd?_eq_some_iff.mp group]
    · cases group
  · rintro rfl
    exact stripEnd?_eq_some_iff.mpr rfl

/-! ## Sizes of members -/

theorem length_trim_lt_cons (first : Char) (rest : List Char) :
    (trim rest).length < (first :: rest).length :=
  Nat.lt_succ_of_le (length_trim_le rest)

theorem length_lt_extent {pieces : List (List Char)} {piece : List Char}
    (member : piece ∈ pieces) : piece.length < extent pieces := by
  induction pieces with
  | nil => cases member
  | cons first pieces induction =>
      rw [extent]
      rcases List.mem_cons.mp member with rfl | inRest
      · omega
      · have later := induction inRest
        omega

theorem length_trim_lt_of_group {text inner piece : List Char} {pieces : List (List Char)}
    (group : grouped? text = some inner) (cut : pieces? inner = some pieces)
    (member : piece ∈ pieces) : (trim piece).length < text.length := by
  have trimmed := length_trim_le piece
  have inPieces := length_lt_extent member
  have whole := length_of_grouped? group
  rw [extent_of_pieces? cut] at inPieces
  omega

/-! ## The last character -/

def endsSpelling (character : Char) : Bool :=
  isIdentifierPart character || character ∈ [']', ')', '>']

theorem endsSpelling_of_isIdentifierPart {character : Char}
    (part : isIdentifierPart character = true) : endsSpelling character = true := by
  simp [endsSpelling, part]

theorem endsSpelling_of_mem {character : Char} (closes : character ∈ [']', ')', '>']) :
    endsSpelling character = true := by
  rw [endsSpelling, decide_eq_true closes, Bool.or_true]

theorem endsSpelling_of_mem_markers {character : Char} (marker : character ∈ ['&', '.']) :
    endsSpelling character = false :=
  eq_false_of_mem (by decide +kernel) marker

theorem getLast?_intercalate (separator : List Char) {pieces : List (List Char)}
    {last : List Char} (isLast : pieces.getLast? = some last) (nonempty : last ≠ []) :
    (separator.intercalate pieces).getLast? = last.getLast? := by
  induction pieces with
  | nil => cases isLast
  | cons piece pieces induction =>
      cases pieces with
      | nil =>
          have same : piece = last := by simpa using isLast
          simp [List.intercalate, same]
      | cons next others =>
          have inner := induction (by simpa using isLast)
          have parts : separator.intercalate (piece :: next :: others) =
              piece ++ separator ++ separator.intercalate (next :: others) := by
            simp [List.intercalate]
          rw [parts, List.getLast?_append, inner]
          cases ending : last.getLast? with
          | none => exact absurd (List.getLast?_eq_none_iff.mp ending) nonempty
          | some character => rfl

theorem exists_intercalate_cons (separator piece : List Char) (pieces : List (List Char)) :
    ∃ rest, separator.intercalate (piece :: pieces) = piece ++ rest := by
  cases pieces with
  | nil => exact ⟨[], by rw [List.intercalate_singleton, List.append_nil]⟩
  | cons next others =>
      exact ⟨separator ++ separator.intercalate (next :: others), by
        rw [List.intercalate_cons_cons, List.append_assoc]⟩

theorem mem_intercalate {separator : List Char} {pieces : List (List Char)} {character : Char}
    (member : character ∈ separator.intercalate pieces) :
    character ∈ separator ∨ ∃ piece ∈ pieces, character ∈ piece := by
  induction pieces with
  | nil => cases member
  | cons piece pieces induction =>
      cases pieces with
      | nil =>
          rw [List.intercalate_singleton] at member
          exact .inr ⟨piece, List.mem_cons_self, member⟩
      | cons next others =>
          rw [List.intercalate_cons_cons, List.append_assoc, List.mem_append,
            List.mem_append] at member
          rcases member with inPiece | inSeparator | inOthers
          · exact .inr ⟨piece, List.mem_cons_self, inPiece⟩
          · exact .inl inSeparator
          · rcases induction inOthers with inSeparator | ⟨other, isOther, inOther⟩
            · exact .inl inSeparator
            · exact .inr ⟨other, List.mem_cons_of_mem _ isOther, inOther⟩

theorem isIdentifierPart_of_ofWord? {name : List Char} {word : Keyword}
    (spells : Keyword.ofWord? (String.ofList name) = some word) :
    name ≠ [] ∧ ∀ character ∈ name, isIdentifierPart character = true := by
  have letters : ∀ spelling ∈ Keyword.spellings, spelling.1.toList ≠ [] ∧
      spelling.1.toList.all Char.isAlpha = true := by
    decide
  rcases List.lookup_eq_some_iff.mp spells with ⟨before, after, parts, _⟩
  have member : (String.ofList ((String.ofList name).toList.map Char.toLower), word) ∈
      Keyword.spellings := by
    rw [parts]
    exact List.mem_append_right _ List.mem_cons_self
  rcases letters _ member with ⟨nonempty, allAlpha⟩
  simp only [String.toList_ofList, ne_eq, List.map_eq_nil_iff] at nonempty allAlpha
  refine ⟨nonempty, ?_⟩
  intro character inName
  have alpha := List.all_eq_true.mp allAlpha _ (List.mem_map_of_mem inName)
  rw [Char.isAlpha_toLower_eq_isAlpha] at alpha
  apply isIdentifierPart_of_isIdentifierStart
  rw [isIdentifierStart, isLetter_of_isAlpha alpha, Bool.or_true]

theorem exists_last_of_ofWord? {name : List Char} {word : Keyword}
    (spells : Keyword.ofWord? (String.ofList name) = some word) :
    ∃ last ∈ name.getLast?, isIdentifierPart last = true := by
  rcases isIdentifierPart_of_ofWord? spells with ⟨nonempty, parts⟩
  exact ⟨name.getLast nonempty, List.getLast?_eq_some_getLast nonempty,
    parts _ (List.getLast_mem nonempty)⟩

theorem exists_last_of_segments {text : List Char}
    (identifiers : (text.splitOn '\\').all isIdentifier = true) :
    ∃ last ∈ text.getLast?, isIdentifierPart last = true := by
  have isLast := List.getLast?_eq_some_getLast (List.splitOn_ne_nil '\\' text)
  have identifier := List.all_eq_true.mp identifiers _ (List.mem_of_getLast? isLast)
  have nonempty := ne_nil_of_isIdentifier identifier
  have ending := getLast?_intercalate ['\\'] isLast nonempty
  rw [List.intercalate_splitOn, List.getLast?_eq_some_getLast nonempty] at ending
  exact ⟨_, ending, isIdentifierPart_of_mem identifier (List.getLast_mem nonempty)⟩

theorem exists_last_of_isClassName {name : List Char} (isName : isClassName name = true) :
    ∃ last ∈ name.getLast?, isIdentifierPart last = true := by
  rcases exists_last_of_segments isName with ⟨last, isLast, part⟩
  rw [getLast?_dropWhile] at isLast
  · exact ⟨last, isLast, part⟩
  · intro nothing
    rw [nothing] at isLast
    cases isLast

theorem exists_last_of_nameAtom {text : List Char} {atom : Atom}
    (read : genericBase text >>= nameAtom = .ok atom) :
    ∃ last ∈ text.getLast?, endsSpelling last = true := by
  rcases bind_eq_ok_iff.mp read with ⟨name, isBase, isAtom⟩
  rw [genericBase] at isBase
  split at isBase
  · cases isBase
    rw [nameAtom] at isAtom
    split at isAtom
    · rename_i word spells
      rcases exists_last_of_ofWord? spells with ⟨last, isLast, part⟩
      exact ⟨last, isLast, endsSpelling_of_isIdentifierPart part⟩
    · split at isAtom
      · rename_i isName
        rcases exists_last_of_isClassName isName with ⟨last, isLast, part⟩
        exact ⟨last, isLast, endsSpelling_of_isIdentifierPart part⟩
      · cases isAtom
  · split at isBase
    · rename_i closed
      exact ⟨'>', closed, endsSpelling_of_mem (by decide)⟩
    · cases isBase

theorem getLast?_of_grouped? {text inner : List Char} (group : grouped? text = some inner) :
    text.getLast? = some ')' := by
  rw [grouped?_eq_some_iff.mp group, ← List.cons_append, List.getLast?_concat]

/-- A member that can be read and does not end in a blank ends in a name or in
a closing bracket. -/
theorem exists_last_of_memberAtoms {text : List Char} {found : List Atom}
    (read : memberAtoms text = .ok found)
    (ends : ∀ character ∈ text.getLast?, isBlank character = false) :
    ∃ last ∈ text.getLast?, endsSpelling last = true := by
  induction size : text.length using Nat.strongRecOn generalizing text found with
  | ind length induction =>
      rw [memberAtoms.eq_def] at read
      split at read
      · cases read
      · -- What stands behind a question mark is a member of its own.
        rename_i rest
        rcases bind_eq_ok_iff.mp read with ⟨others, readRest, _⟩
        have shorter : (trim rest).length < length := size ▸ length_trim_lt_cons '?' rest
        rcases induction _ shorter readRest (fun _ => isBlank_of_mem_getLast?_trim) rfl with
          ⟨last, isLast, closes⟩
        have nonempty : rest ≠ [] := by
          intro nothing
          rw [nothing] at isLast
          cases isLast
        have same : ('?' :: rest).getLast? = rest.getLast? :=
          List.getLast?_append_of_ne_nil ['?'] nonempty
        rw [same] at ends ⊢
        rw [getLast?_trim ends] at isLast
        exact ⟨last, isLast, closes⟩
      · split at read
        · rename_i marked
          rcases Option.isSome_iff_exists.mp marked with ⟨element, isArray⟩
          have ending := getLast?_of_stripEnd? (by simp) isArray
          exact ⟨']', ending, endsSpelling_of_mem (by decide)⟩
        · split at read
          · rename_i inner group
            exact ⟨')', getLast?_of_grouped? group, endsSpelling_of_mem (by decide)⟩
          · rcases bind_eq_ok_iff.mp read with ⟨atom, readName, _⟩
            exact exists_last_of_nameAtom readName

/-! ## Spellings -/

theorem atoms_trim (text : List Char) : atoms (trim text) = atoms text := by
  rw [atoms, atoms, trim_trim]

theorem isBalanced_of_atoms {text : List Char} {found : List Atom}
    (read : atoms text = .ok found) : IsBalanced text := by
  rw [← isBalanced_trim_iff, ← isSome_pieces?_iff]
  rw [atoms] at read
  split at read
  · cases read
  · split at read
    · rename_i cut
      rw [cut]
      rfl
    · cases read

theorem exists_last_of_atoms {text : List Char} {found : List Atom}
    (read : atoms text = .ok found) :
    ∃ last ∈ (trim text).getLast?, endsSpelling last = true := by
  rw [atoms] at read
  split at read
  · cases read
  · split at read
    · rename_i pieces cut
      have nonempty : pieces ≠ [] := (intercalate_of_piecesAt? cut).1
      have isLast := List.getLast?_eq_some_getLast nonempty
      generalize pieces.getLast nonempty = piece at isLast
      rcases exists_memberAtoms_of_pieceAtoms read (List.mem_of_getLast? isLast) with
        ⟨atoms, readPiece⟩
      rcases exists_last_of_memberAtoms readPiece (fun _ => isBlank_of_mem_getLast?_trim) with
        ⟨last, ends, closes⟩
      have someText : piece ≠ [] := by
        intro nothing
        rw [nothing] at ends
        cases ends
      have same := getLast?_intercalate ['|'] isLast someText
      rw [intercalate_of_pieces? cut] at same
      have stays : ∀ character ∈ piece.getLast?, isBlank character = false := by
        intro character inPiece
        rw [← same] at inPiece
        exact isBlank_of_mem_getLast?_trim inPiece
      rw [getLast?_trim stays, ← same] at ends
      exact ⟨last, ends, closes⟩
    · cases read

end TypeExpr

namespace UnionType

theorem parse_ofList_eq_ok_iff {text : List Char} {type : UnionType} :
    parse (String.ofList text) = .ok type ↔
      ∃ found, TypeExpr.atoms text = .ok found ∧ type = .ofList found := by
  rw [parse, String.toList_ofList]
  cases TypeExpr.atoms text with
  | ok found =>
      constructor
      · intro read
        cases read
        exact ⟨found, rfl, rfl⟩
      · intro found
        rcases found with ⟨other, same, rfl⟩
        cases same
        rfl
  | error fault =>
      constructor
      · intro read
        cases read
      · intro found
        rcases found with ⟨other, impossible, _⟩
        cases impossible

theorem parse_of_trim_eq {first second : List Char} (same : trim first = trim second)
    {type : UnionType} (read : parse (String.ofList first) = .ok type) :
    parse (String.ofList second) = .ok type := by
  rw [parse_ofList_eq_ok_iff, ← TypeExpr.atoms_trim] at read ⊢
  rwa [← same]

end UnionType

end ParamTypes
