import ParamTypes.Proofs.OrderedSet
import ParamTypes.Proofs.TypeExpr.Grammar

/-!
Types that are written out and read again. A class that bears the name of a
keyword is read as the keyword, since it is written without the separators that
told it apart; every other atom comes back.
-/

namespace ParamTypes

open Text

/-! ## Atoms -/

namespace Atom

/-- The atom that is read where an atom is written. -/
def reread : Atom → Atom
  | .keyword word => .keyword word
  | .named className =>
      match Keyword.ofWord? className with
      | some word => .keyword word
      | none => .named className

example : reread (ofClassName "\\INT") = .keyword .int := by decide

example : reread (ofClassName "\\App\\Int") = .named "App\\Int" := by decide

theorem reread_of_noKeyword {atom : Atom}
    (noKeyword : ∀ className, atom = .named className → Keyword.ofWord? className = none) :
    atom.reread = atom := by
  cases atom with
  | keyword word => rfl
  | named className => rw [reread, noKeyword className rfl]

theorem reread_reread (atom : Atom) : atom.reread.reread = atom.reread := by
  apply reread_of_noKeyword
  intro className same
  cases atom with
  | keyword word => cases same
  | named name =>
      rw [reread] at same
      split at same
      · cases same
      · rename_i noKeyword
        cases same
        exact noKeyword

def IsWellNamed : Atom → Prop
  | .keyword _ => True
  | .named className => ∃ segments : List (List Char), segments ≠ [] ∧
      (∀ segment ∈ segments, isIdentifier segment = true) ∧
      className.toList = ['\\'].intercalate segments

/-- Whether atoms can be written: there are some, and their classes have proper
names. -/
def AreWritable (atoms : List Atom) : Prop :=
  atoms ≠ [] ∧ ∀ atom ∈ atoms, atom.IsWellNamed

theorem areWritable_singleton {atom : Atom} (wellNamed : atom.IsWellNamed) :
    AreWritable [atom] :=
  ⟨List.cons_ne_nil _ _, List.forall_mem_singleton.mpr wellNamed⟩

theorem areWritable_flatMap {pieces : List (List Char × List Atom)} (nonempty : pieces ≠ [])
    (each : ∀ piece ∈ pieces, AreWritable piece.2) :
    AreWritable (pieces.flatMap Prod.snd) := by
  constructor
  · intro nothing
    rcases List.exists_mem_of_ne_nil pieces nonempty with ⟨piece, isPiece⟩
    exact (each piece isPiece).1 (List.flatMap_eq_nil_iff.mp nothing piece isPiece)
  · intro atom member
    rcases List.mem_flatMap.mp member with ⟨piece, isPiece, inPiece⟩
    exact (each piece isPiece).2 atom inPiece

end Atom

namespace TypeExpr

theorem isWellNamed_of_nameMeans {text : List Char} {atom : Atom}
    (means : NameMeans text atom) : atom.IsWellNamed := by
  cases means with
  | keyword spelled => trivial
  | @className count segments nonempty identifiers noKeyword =>
      exact ⟨segments, nonempty, identifiers, String.toList_ofList⟩

theorem areWritable_of_memberMeans {text : List Char} {atoms : List Atom}
    (means : MemberMeans text atoms) : Atom.AreWritable atoms := by
  induction means with
  | nullable member induction =>
      exact ⟨List.cons_ne_nil _ _, List.forall_mem_cons.mpr ⟨trivial, induction.2⟩⟩
  | array notNullable => exact Atom.areWritable_singleton trivial
  | group cut members induction =>
      exact Atom.areWritable_flatMap (mt List.map_eq_nil_iff.mpr cut.nonempty) induction
  | generic named areBlank =>
      exact Atom.areWritable_singleton (isWellNamed_of_nameMeans named)
  | name named => exact Atom.areWritable_singleton (isWellNamed_of_nameMeans named)

theorem areWritable_of_expressionMeans {text : List Char} {atoms : List Atom}
    (means : ExpressionMeans text atoms) : Atom.AreWritable atoms := by
  rcases means with ⟨pieces, cut, members, rfl⟩
  exact Atom.areWritable_flatMap (mt List.map_eq_nil_iff.mpr cut.nonempty)
    fun piece member => areWritable_of_memberMeans (members piece member)

theorem nameMeans_text {atom : Atom} (wellNamed : atom.IsWellNamed) :
    NameMeans atom.text.toList atom.reread := by
  cases atom with
  | keyword word =>
      apply NameMeans.keyword
      rw [← ofWord?_ofList_eq_some_iff, String.ofList_toList]
      exact Keyword.ofWord?_text word
  | named className =>
      rcases wellNamed with ⟨segments, nonempty, identifiers, parts⟩
      rw [Atom.reread, Atom.text_named]
      split
      · rename_i word spells
        apply NameMeans.keyword
        rwa [← ofWord?_ofList_eq_some_iff, String.ofList_toList]
      · rename_i noKeyword
        rw [← String.ofList_toList (s := className), ofWord?_ofList_eq_none_iff, parts] at noKeyword
        have means := @NameMeans.className 0 segments nonempty identifiers noKeyword
        rwa [List.replicate_zero, List.nil_append, ← parts, String.ofList_toList] at means

/-! ## Expressions -/

theorem isNamePart_of_mem_text {atom : Atom} (wellNamed : atom.IsWellNamed) :
    ∀ character ∈ atom.text.toList, isNamePart character = true :=
  (nameMeans_text wellNamed).isNamePart_of_mem

/-- No atom holds a bar or a bracket, so the bars between atoms are where their
texts are cut. -/
theorem isCut_texts {atoms : List Atom} (writable : Atom.AreWritable atoms) :
    IsCut (['|'].intercalate (atoms.map (·.text.toList))) (atoms.map (·.text.toList)) where
  nonempty := by simpa using writable.1
  joined := rfl
  balanced := by
    intro piece member
    rcases List.mem_map.mp member with ⟨atom, isAtom, rfl⟩
    apply depthAfter?_of_plain
    exact (nameMeans_text (writable.2 atom isAtom)).isPlain_of_mem
  enclosed := by
    intro piece member
    rcases List.mem_map.mp member with ⟨atom, isAtom, rfl⟩
    apply barsEnclosed_of_not_mem
    exact (nameMeans_text (writable.2 atom isAtom)).not_mem (by decide)

theorem trim_texts {atoms : List Atom} (writable : Atom.AreWritable atoms) :
    trim (['|'].intercalate (atoms.map (·.text.toList))) =
      ['|'].intercalate (atoms.map (·.text.toList)) := by
  have visible : ∀ character ∈ ['|'].intercalate (atoms.map (·.text.toList)),
      isBlank character = false := by
    intro character member
    rcases mem_intercalate member with bar | ⟨piece, isPiece, inPiece⟩
    · rw [List.mem_singleton.mp bar]
      decide
    · rcases List.mem_map.mp isPiece with ⟨atom, isAtom, rfl⟩
      exact isBlank_of_isNamePart
        (isNamePart_of_mem_text (writable.2 atom isAtom) character inPiece)
  exact trim_of_ends (fun first begins => visible first (List.mem_of_mem_head? begins))
    (fun last ends => visible last (List.mem_of_getLast? ends))

theorem expressionMeans_texts {atoms : List Atom} (writable : Atom.AreWritable atoms) :
    ExpressionMeans (['|'].intercalate (atoms.map (·.text.toList)))
      (atoms.map Atom.reread) := by
  refine ⟨atoms.map fun atom => (atom.text.toList, [atom.reread]), ?_, ?_, ?_⟩
  · rw [List.map_map]
    exact isCut_texts writable
  · intro piece member
    rcases List.mem_map.mp member with ⟨atom, isAtom, rfl⟩
    rw [trim_of_isNamePart (isNamePart_of_mem_text (writable.2 atom isAtom))]
    exact .name (nameMeans_text (writable.2 atom isAtom))
  · rw [List.flatMap_map, ← List.map_eq_flatMap]

end TypeExpr

namespace UnionType

theorem areWritable_of_parse {source : String} {type : UnionType}
    (read : parse source = .ok type) : Atom.AreWritable type.toList := by
  rcases parse_eq_ok_iff_exists.mp read with ⟨found, means, rfl⟩
  have writable := TypeExpr.areWritable_of_expressionMeans means
  constructor
  · intro nothing
    rcases List.exists_mem_of_ne_nil found writable.1 with ⟨atom, isFound⟩
    have member : atom ∈ (OrderedSet.ofList found).toList := OrderedSet.mem_ofList.mpr isFound
    rw [nothing] at member
    cases member
  · intro atom member
    exact writable.2 atom (OrderedSet.mem_ofList.mp member)

theorem parse_text_of_areWritable {type : UnionType}
    (writable : Atom.AreWritable type.toList) :
    parse type.text = .ok (.ofList (type.toList.map Atom.reread)) := by
  have texts : type.text.toList = ['|'].intercalate (type.toList.map (·.text.toList)) := by
    rw [text, String.toList_intercalate, List.map_map]
    rfl
  refine parse_eq_ok_iff_exists.mpr ⟨_, ?_, rfl⟩
  rw [texts, TypeExpr.trim_texts writable]
  exact TypeExpr.expressionMeans_texts writable

theorem parse_text_of_reread {source : String} {type : UnionType}
    (read : parse source = .ok type) (same : ∀ atom ∈ type.toList, atom.reread = atom) :
    parse type.text = .ok type := by
  rw [parse_text_of_areWritable (areWritable_of_parse read), List.map_congr_left same,
    List.map_id', OrderedSet.ofList_toList]

/-- A type that was read and written can be read again. Its classes that bear the
name of a keyword become keywords, and members that are the same then are one.
So nothing changes in a type without such classes, and nothing more when the
type is written and read once more. -/
theorem parse_text {source : String} {type : UnionType} (read : parse source = .ok type) :
    parse type.text = .ok (.ofList (type.toList.map Atom.reread)) ∧
      ((∀ className, .named className ∈ type → Keyword.ofWord? className = none) →
        parse type.text = .ok type) ∧
      ∀ again, parse type.text = .ok again → parse again.text = .ok again := by
  have written := parse_text_of_areWritable (areWritable_of_parse read)
  refine ⟨written, ?_, ?_⟩
  · intro noKeyword
    apply parse_text_of_reread read
    intro atom member
    apply Atom.reread_of_noKeyword
    rintro className rfl
    exact noKeyword className member
  · intro again readAgain
    apply parse_text_of_reread readAgain
    intro atom member
    rw [written] at readAgain
    cases readAgain
    rcases List.mem_map.mp (OrderedSet.mem_ofList.mp member) with ⟨old, _, rfl⟩
    exact old.reread_reread

theorem parse_text_class_int :
    let type : UnionType := .ofList [.named "int", .named "App\\Model", .keyword .int]
    parse "\\int | App\\Model | integer" = .ok type ∧ type.text = "int|App\\Model|int" ∧
      parse type.text = .ok (.ofList [.keyword .int, .named "App\\Model"]) := by
  intro type
  have read : parse "\\int | App\\Model | integer" = .ok type := by
    decide +kernel
  exact ⟨read, by decide, (parse_text read).1.trans (by decide)⟩

end UnionType

end ParamTypes
