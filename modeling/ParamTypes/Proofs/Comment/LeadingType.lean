import ParamTypes.Proofs.Comment.WrittenTag
import ParamTypes.Proofs.TypeExpr.Decomposition

/-!
Where the type expression at the beginning of a tag ends: a bare one in front of the
first blank outside brackets, one in braces at the brace that closes the first. Every
expression that can be read and has blanks in its brackets only ends where it should.
-/

namespace ParamTypes.ParamTag

open Text TypeExpr

/-! ## Bare types -/

/-- The number of open brackets behind a text that stands inside `depth` of them, if
brackets that close nothing are ignored. -/
def clampedDepth (depth : Nat) (text : List Char) : Nat :=
  text.foldl (clampedStep opensBracket closesBracket) depth

example : clampedDepth 0 ")>(a<b>".toList = 1 := by decide

/-- A text that is cut in two, in front of its first blank outside `depth` brackets or,
if there is none, at its end. -/
structure IsBareCut (depth : Nat) (text first rest : List Char) : Prop where
  joined : first ++ rest = text
  stops : ∀ blank ∈ rest.head?, isBlank blank = true ∧ clampedDepth depth first = 0
  enclosed : ∀ before blank after, first = before ++ blank :: after →
    isBlank blank = true → 0 < clampedDepth depth before

theorem isBareCut_nil {depth : Nat} {text : List Char}
    (stops : ∀ blank ∈ text.head?, isBlank blank = true ∧ depth = 0) :
    IsBareCut depth text [] text := by
  refine ⟨List.nil_append text, stops, ?_⟩
  intro before blank after parts
  simp at parts

theorem IsBareCut.cons {depth : Nat} {character : Char} {text first rest : List Char}
    (goesOn : ¬ (isBlank character = true ∧ depth = 0))
    (cut : IsBareCut (clampedStep opensBracket closesBracket depth character) text first rest) :
    IsBareCut depth (character :: text) (character :: first) rest := by
  refine ⟨congrArg (character :: ·) cut.joined, cut.stops, ?_⟩
  intro before blank after parts isBlankHere
  cases before with
  | nil =>
      cases parts
      rw [not_and] at goesOn
      exact Nat.pos_of_ne_zero (goesOn isBlankHere)
  | cons head before =>
      cases parts
      exact cut.enclosed before blank after rfl isBlankHere

theorem isBareCut_bareType (depth : Nat) (text : List Char) :
    IsBareCut depth text (bareType depth text).1 (bareType depth text).2 := by
  induction text generalizing depth with
  | nil => exact isBareCut_nil (by simp)
  | cons character rest induction =>
      by_cases ends : isBlank character = true ∧ depth = 0
      · have stops : ∀ blank ∈ (character :: rest).head?, isBlank blank = true ∧ depth = 0 := by
          rintro _ ⟨⟩
          exact ends
        rw [ends.2] at stops ⊢
        rw [bareType_of_head fun blank begins => (stops blank begins).1]
        exact isBareCut_nil stops
      · rw [bareType_cons ends]
        exact (induction _).cons ends

theorem IsBareCut.length_le {depth : Nat} {text first rest before after : List Char}
    {blank : Char} (cut : IsBareCut depth text first rest)
    (parts : text = before ++ blank :: after) (isBlankHere : isBlank blank = true)
    (outside : clampedDepth depth before = 0) : first.length ≤ before.length := by
  by_contra inside
  rw [← cut.joined] at parts
  rcases List.append_eq_append_iff.mp parts with ⟨middle, isBefore, _⟩ | ⟨middle, isFirst, isRest⟩
  · rw [isBefore, List.length_append] at inside
    omega
  · cases middle with
    | nil =>
        rw [isFirst, List.append_nil] at inside
        exact inside le_rfl
    | cons head middle =>
        cases isRest
        have enclosed := cut.enclosed before blank middle isFirst isBlankHere
        rw [outside] at enclosed
        exact Nat.lt_irrefl 0 enclosed

theorem IsBareCut.length_le_of_isBareCut {depth : Nat} {text first rest other behind : List Char}
    (cut : IsBareCut depth text first rest) (otherCut : IsBareCut depth text other behind) :
    first.length ≤ other.length := by
  cases behind with
  | nil =>
      rw [← otherCut.joined, List.append_nil] at cut
      rw [← cut.joined, List.length_append]
      exact Nat.le_add_right _ _
  | cons blank behind =>
      have stops := otherCut.stops blank rfl
      exact cut.length_le otherCut.joined.symm stops.1 stops.2

theorem IsBareCut.unique {depth : Nat} {text first rest other behind : List Char}
    (cut : IsBareCut depth text first rest) (otherCut : IsBareCut depth text other behind) :
    other = first ∧ behind = rest := by
  have sameLength : other.length = first.length :=
    Nat.le_antisymm (otherCut.length_le_of_isBareCut cut) (cut.length_le_of_isBareCut otherCut)
  exact List.append_inj (otherCut.joined.trans cut.joined.symm) sameLength

/-! ## Types in braces -/

def opensBrace (character : Char) : Bool :=
  character == '\x7b'

def closesBrace (character : Char) : Bool :=
  character == '\x7d'

theorem closesBrace_of_opensBrace {character : Char} (opens : opensBrace character = true) :
    closesBrace character = false := by
  rw [beq_iff_eq.mp opens]
  decide

theorem closeBrace?_cons {depth : Nat} {character : Char}
    (goesOn : ¬ (closesBrace character = true ∧ depth = 0)) (rest : List Char) :
    closeBrace? depth (character :: rest) =
      (closeBrace? (clampedStep opensBrace closesBrace depth character) rest).map
        fun (raw, behind) => (character :: raw, behind) := by
  have noEnd : (character == '\x7d' && depth == 0) = false := by
    simpa [closesBrace] using goesOn
  rw [closeBrace?, noEnd]
  rfl

theorem closeBrace?_eq_some_iff {depth : Nat} {text raw rest : List Char} :
    closeBrace? depth text = some (raw, rest) ↔
      text = raw ++ '\x7d' :: rest ∧ ClosesOpen opensBrace closesBrace depth raw ∧
        depth + balance opensBrace closesBrace raw = 0 := by
  induction text generalizing depth raw with
  | nil => simp [closeBrace?]
  | cons character text induction =>
      by_cases ends : closesBrace character = true ∧ depth = 0
      · rcases ends with ⟨closing, rfl⟩
        cases beq_iff_eq.mp closing
        constructor
        · intro found
          cases found
          exact ⟨rfl, closesOpen_nil.mpr le_rfl, rfl⟩
        · rintro ⟨parts, inside, _⟩
          cases raw with
          | nil =>
              cases parts
              rfl
          | cons head raw =>
              -- The text in front would begin with this brace, which closes nothing there.
              cases parts
              exact absurd inside (not_closesOpen_of_closes closesBrace_of_opensBrace closing raw)
      · have step := natCast_clampedStep closesBrace_of_opensBrace ends
        rw [closeBrace?_cons ends]
        constructor
        · intro found
          rcases Option.map_eq_some_iff.mp found with ⟨⟨inner, behind⟩, isFound, same⟩
          cases same
          rcases induction.mp isFound with ⟨rfl, inside, closed⟩
          rw [step] at inside closed
          refine ⟨rfl, closesOpen_cons.mpr ⟨Int.natCast_nonneg depth, inside⟩, ?_⟩
          rw [balance_cons, ← Int.add_assoc]
          exact closed
        · rintro ⟨parts, inside, closed⟩
          cases raw with
          | nil =>
              cases parts
              exact absurd ⟨rfl, by simpa using closed⟩ ends
          | cons head raw =>
              cases parts
              rw [balance_cons, ← Int.add_assoc, ← step] at closed
              have insideRest := (closesOpen_cons.mp inside).2
              rw [← step] at insideRest
              rw [induction.mpr ⟨rfl, insideRest, closed⟩]
              rfl

theorem closeBrace?_eq_none_iff {depth : Nat} {text : List Char} :
    closeBrace? depth text = none ↔ ClosesOpen opensBrace closesBrace depth text := by
  induction text generalizing depth with
  | nil => simp [closeBrace?, closesOpen_nil]
  | cons character text induction =>
      by_cases ends : closesBrace character = true ∧ depth = 0
      · rcases ends with ⟨closing, rfl⟩
        cases beq_iff_eq.mp closing
        exact iff_of_false (Option.some_ne_none _)
          (not_closesOpen_of_closes closesBrace_of_opensBrace closing text)
      · rw [closeBrace?_cons ends, Option.map_eq_none_iff, induction,
          natCast_clampedStep closesBrace_of_opensBrace ends, closesOpen_cons]
        exact (and_iff_right (Int.natCast_nonneg depth)).symm

theorem splitType?_braced_eq_some_iff {text first rest : List Char} :
    splitType? ('\x7b' :: text) = some (first, rest) ↔
      ∃ raw, text = raw ++ '\x7d' :: rest ∧ ClosesOpen opensBrace closesBrace 0 raw ∧
        balance opensBrace closesBrace raw = 0 ∧ first = trim raw := by
  rw [splitType?, Option.map_eq_some_iff]
  constructor
  · rintro ⟨⟨raw, behind⟩, found, same⟩
    cases same
    rcases closeBrace?_eq_some_iff.mp found with ⟨parts, inside, closed⟩
    exact ⟨raw, parts, inside, (Int.zero_add _).symm.trans closed, rfl⟩
  · rintro ⟨raw, parts, inside, closed, rfl⟩
    have found : closeBrace? 0 text = some (raw, rest) :=
      closeBrace?_eq_some_iff.mpr ⟨parts, inside, (Int.zero_add _).trans closed⟩
    exact ⟨(raw, rest), found, rfl⟩

theorem isSome_splitType?_braced_iff {text : List Char} :
    (splitType? ('\x7b' :: text)).isSome = true ↔
      ∃ before, before <+: '\x7b' :: text ∧ before ≠ [] ∧
        balance opensBrace closesBrace before = 0 := by
  have opening : balance opensBrace closesBrace ['\x7b'] = 1 := by decide
  have closing : balance opensBrace closesBrace ['\x7d'] = -1 := by decide
  constructor
  · intro found
    rcases Option.isSome_iff_exists.mp found with ⟨⟨first, rest⟩, isFound⟩
    rcases splitType?_braced_eq_some_iff.mp isFound with ⟨raw, rfl, _, closed, _⟩
    refine ⟨'\x7b' :: (raw ++ ['\x7d']), ⟨rest, by simp⟩, List.cons_ne_nil _ _, ?_⟩
    rw [balance_cons, balance_append, opening, closed, closing]
    rfl
  · rintro ⟨before, isPrefix, nonempty, closed⟩
    rw [splitType?, Option.isSome_map]
    by_contra unclosed
    rw [Option.not_isSome_iff_eq_none, closeBrace?_eq_none_iff] at unclosed
    rcases List.prefix_cons_iff.mp isPrefix with rfl | ⟨later, rfl, isLater⟩
    · exact nonempty rfl
    · rw [balance_cons, opening] at closed
      have inside := unclosed later isLater
      omega

/-! ## Types that can be read -/

theorem splitType?_of_parse {text rest : List Char} {type : UnionType}
    (read : UnionType.parse (String.ofList text) = .ok type) (bare : text.head? ≠ some '\x7b')
    (enclosed : ∀ before blank after, text = before ++ blank :: after →
      isBlank blank = true → balance opensBracket closesBracket before ≠ 0)
    (stops : ∀ blank ∈ rest.head?, isBlank blank = true) :
    splitType? (text ++ rest) = some (text, rest) := by
  rcases UnionType.parse_ofList_eq_ok_iff.mp read with ⟨found, isFound, _⟩
  have nonempty : text ≠ [] := by
    rintro rfl
    cases isFound
  apply splitType?_of_bare (isBalanced_of_atoms isFound) _ nonempty bare stops
  intro before blank after parts isBlankHere closed
  exact enclosed before blank after parts isBlankHere (isBalanced_iff.mp closed).2

/-- A text that does not begin with a brace is cut in one way: in front of the first blank
outside brackets, where a bracket that closes nothing is ignored, or at its end. Behind
a brace, a type is found exactly if some beginning of the text closes the brace; the type
is what stands in front of the brace that closes it, without the blanks around it. Every
type that can be read, has no blank outside its brackets and does not begin with a brace
is found in front of a blank or the end, as it is. -/
theorem splitType?_cuts (text : List Char) :
    (text ≠ [] → text.head? ≠ some '\x7b' →
        ∃ first rest, splitType? text = some (first, rest) ∧ IsBareCut 0 text first rest ∧
          (∀ before blank after, text = before ++ blank :: after → isBlank blank = true →
            clampedDepth 0 before = 0 → first.length ≤ before.length) ∧
          ∀ other behind, IsBareCut 0 text other behind → other = first ∧ behind = rest) ∧
      ((splitType? ('\x7b' :: text)).isSome = true ↔
        ∃ before, before <+: '\x7b' :: text ∧ before ≠ [] ∧
          balance opensBrace closesBrace before = 0) ∧
      (∀ first rest, splitType? ('\x7b' :: text) = some (first, rest) ↔
        ∃ raw, text = raw ++ '\x7d' :: rest ∧ ClosesOpen opensBrace closesBrace 0 raw ∧
          balance opensBrace closesBrace raw = 0 ∧ first = trim raw) ∧
      ∀ type rest, UnionType.parse (String.ofList text) = .ok type →
        text.head? ≠ some '\x7b' →
        (∀ before blank after, text = before ++ blank :: after → isBlank blank = true →
          balance opensBracket closesBracket before ≠ 0) →
        (∀ blank ∈ rest.head?, isBlank blank = true) →
          splitType? (text ++ rest) = some (text, rest) := by
  refine ⟨?_, isSome_splitType?_braced_iff, fun _ _ => splitType?_braced_eq_some_iff,
    fun _ _ read bare enclosed stops => splitType?_of_parse read bare enclosed stops⟩
  intro nonempty bare
  have cut := isBareCut_bareType 0 text
  refine ⟨_, _, splitType?_of_head nonempty bare, cut, ?_, ?_⟩
  · intro before blank after parts isBlankHere outside
    exact cut.length_le parts isBlankHere outside
  · intro other behind otherCut
    exact cut.unique otherCut

theorem splitType?_cuts_generic :
    UnionType.parse (String.ofList "array<int, (A)>".toList) = .ok (.ofList [.keyword .array]) ∧
      splitType? ("array<int, (A)>".toList ++ " $x".toList) =
        some ("array<int, (A)>".toList, " $x".toList) ∧
      splitType? "int)><a b> c".toList = some ("int)><a b>".toList, " c".toList) := by
  have read : UnionType.parse (String.ofList "array<int, (A)>".toList) =
      .ok (.ofList [.keyword .array]) := by
    cbv
  have byPosition : ∀ position ∈ List.range "array<int, (A)>".toList.length,
      ("array<int, (A)>".toList[position]?.any isBlank) = true →
        balance opensBracket closesBracket ("array<int, (A)>".toList.take position) ≠ 0 := by
    decide +kernel
  have enclosed : ∀ before blank after, "array<int, (A)>".toList = before ++ blank :: after →
      isBlank blank = true → balance opensBracket closesBracket before ≠ 0 := by
    intro before blank after parts isBlankHere
    have inText := byPosition before.length
    rw [parts] at inText
    simpa [isBlankHere] using inText
  rcases splitType?_cuts "array<int, (A)>".toList with ⟨_, _, _, agrees⟩
  rcases splitType?_cuts "int)><a b> c".toList with ⟨cuts, _, _, _⟩
  rcases cuts (by decide) (by decide) with ⟨first, rest, found, _, _, unique⟩
  have isCut : IsBareCut 0 "int)><a b> c".toList "int)><a b>".toList " c".toList :=
    isBareCut_bareType 0 "int)><a b> c".toList
  rcases unique _ _ isCut with ⟨rfl, rfl⟩
  refine ⟨read, agrees _ _ read (by decide) enclosed ?_, found⟩
  rintro _ ⟨⟩
  decide

end ParamTypes.ParamTag
