import ParamTypes.Proofs.Comment.Segmentation
import ParamTypes.Proofs.Comment.WrittenTag
import ParamTypes.Proofs.Respacing.TypeExpr

/-!
The text behind a tag in other runs of blanks.

Blanks only tell where words end and where brackets keep them together, so the same
parameter or return type is read.
-/

namespace ParamTypes.ParamTag

open Text TypeExpr

variable {first second : List Char}

/-! ## Type expressions -/

def RespacedParts (parts others : List Char × List Char) : Prop :=
  Respaced parts.1 others.1 ∧ Respaced parts.2 others.2

theorem closeBrace?_blanks_append {blanks : List Char}
    (areBlank : ∀ blank ∈ blanks, isBlank blank = true) (depth : Nat) (text : List Char) :
    closeBrace? depth (blanks ++ text) =
      (closeBrace? depth text).map fun (raw, behind) => (blanks ++ raw, behind) := by
  induction blanks with
  | nil => exact Option.map_id'.symm
  | cons blank blanks induction =>
      rw [List.forall_mem_cons] at areBlank
      have opens : (blank == '\x7b') = false :=
        beq_false_of_ne (Respaced.ne_of_isBlank (by decide) areBlank.1)
      have closes : (blank == '\x7d') = false :=
        beq_false_of_ne (Respaced.ne_of_isBlank (by decide) areBlank.1)
      rw [List.cons_append, closeBrace?]
      simp only [opens, closes, Bool.false_and, Bool.false_eq_true, if_false,
        induction areBlank.2, Option.map_map]
      rfl

theorem respaced_closeBrace? (respaced : Respaced first second) (depth : Nat) :
    Option.Rel RespacedParts (closeBrace? depth first) (closeBrace? depth second) := by
  induction respaced generalizing depth with
  | nil => exact .none
  | keep character rest induction =>
      rw [closeBrace?, closeBrace?]
      split
      · exact .some ⟨.nil, rest⟩
      · exact rel_map (fun _ _ parts => ⟨.keep character parts.1, parts.2⟩)
          (induction _)
  | exchange nonempty areBlank othersNonempty othersAreBlank rest induction =>
      have exchanged := Respaced.of_blanks nonempty areBlank othersNonempty othersAreBlank
      rw [closeBrace?_blanks_append areBlank, closeBrace?_blanks_append othersAreBlank]
      exact rel_map (fun _ _ parts => ⟨exchanged.append parts.1, parts.2⟩)
        (induction depth)

theorem bareType_blanks_append {blanks : List Char}
    (areBlank : ∀ blank ∈ blanks, isBlank blank = true) (depth : Nat) (text : List Char) :
    bareType (depth + 1) (blanks ++ text) =
      (blanks ++ (bareType (depth + 1) text).1, (bareType (depth + 1) text).2) := by
  apply bareType_append (depthAfter?_of_isBlank areBlank (depth + 1))
  intro before blank after parts _ outermost
  have areBlankBefore : ∀ blank ∈ before, isBlank blank = true := fun blank member =>
    areBlank blank (parts ▸ List.mem_append_left _ member)
  rw [depthAfter?_of_isBlank areBlankBefore] at outermost
  cases outermost

theorem respaced_bareType (respaced : Respaced first second) (depth : Nat) :
    RespacedParts (bareType depth first) (bareType depth second) := by
  induction respaced generalizing depth with
  | nil => exact ⟨.nil, .nil⟩
  | keep character rest induction =>
      rw [bareType, bareType]
      split
      · exact ⟨.nil, .keep character rest⟩
      · exact ⟨.keep character (induction _).1, (induction _).2⟩
  | exchange nonempty areBlank othersNonempty othersAreBlank rest induction =>
      cases depth with
      | zero =>
          have stops {blanks text : List Char} (nonempty : blanks ≠ [])
              (areBlank : ∀ blank ∈ blanks, isBlank blank = true) :
              ∀ first ∈ (blanks ++ text).head?, isBlank first = true := by
            intro first begins
            rw [List.head?_append_of_ne_nil _ nonempty] at begins
            exact areBlank first (List.mem_of_mem_head? begins)
          rw [bareType_of_head (stops nonempty areBlank),
            bareType_of_head (stops othersNonempty othersAreBlank)]
          exact ⟨.nil, .exchange nonempty areBlank othersNonempty othersAreBlank rest⟩
      | succ depth =>
          have exchanged := Respaced.of_blanks nonempty areBlank othersNonempty othersAreBlank
          rw [bareType_blanks_append areBlank, bareType_blanks_append othersAreBlank]
          exact ⟨exchanged.append (induction _).1, (induction _).2⟩

theorem respaced_splitType? (respaced : Respaced first second) :
    Option.Rel RespacedParts (splitType? first) (splitType? second) := by
  by_cases nonempty : first = []
  · rw [respaced.eq_nil_iff.mp nonempty, nonempty]
    exact .none
  by_cases braced : first.head? = some '\x7b'
  · rcases List.head?_eq_some_iff.mp braced with ⟨rest, rfl⟩
    rcases respaced.exists_cons (by decide) with ⟨other, rfl, later⟩
    exact rel_map (fun _ _ parts => ⟨parts.1.trim, parts.2⟩)
      (respaced_closeBrace? later 0)
  · rw [splitType?_of_head nonempty braced,
      splitType?_of_head (mt respaced.eq_nil_iff.mpr nonempty)
        (mt (respaced.head?_eq_iff (by decide)).mpr braced)]
    exact .some (respaced_bareType respaced 0)

theorem readType?_congr (respaced : Respaced first second) :
    readType? first = readType? second := by
  have parts := respaced_splitType? respaced.trim
  rw [readType?, readType?]
  generalize splitType? (trim first) = cut at parts ⊢
  generalize splitType? (trim second) = otherCut at parts ⊢
  cases parts with
  | none => rfl
  | some parts => exact UnionType.toOption_parse_congr parts.1

/-! ## Names -/

def RespacedMarked (marked other : List Char × Bool) : Prop :=
  Respaced marked.1 other.1 ∧ marked.2 = other.2

theorem dots_visible : ∀ dot ∈ ['.', '.', '.'], isBlank dot = false :=
  fun _ => eq_false_of_mem (by decide)

theorem isNameToken_congr (respaced : Respaced first second) :
    isNameToken first = isNameToken second := by
  have named := respaced.dropWhile (Respaced.treatsAlike_beq (by decide : isBlank '&' = false))
  have dollar := named.head?_eq_iff (by decide : isBlank '$' = false)
  have dots := named.stripStart? dots_visible
  rw [isNameToken, isNameToken, Bool.eq_iff_iff]
  simp only [Bool.or_eq_true, beq_iff_eq]
  refine or_congr dollar ?_
  generalize stripStart? ['.', '.', '.'] (first.dropWhile (· == '&')) = rest at dots ⊢
  generalize stripStart? ['.', '.', '.'] (second.dropWhile (· == '&')) = other at dots ⊢
  cases dots with
  | none => rfl
  | some _ => rfl

theorem respaced_unwrapName (respaced : Respaced first second) :
    Respaced (unwrapName first) (unwrapName second) := by
  have opened := respaced.dropWhile (Respaced.treatsAlike_beq (by decide : isBlank '[' = false))
  have name := opened.takeWhile (Respaced.treatsAlike_ne (by decide : isBlank '=' = false))
  have closed := name.dropEndWhile (Respaced.treatsAlike_beq (by decide : isBlank ']' = false))
  have quote := Respaced.treatsAlike_beq (by decide : isBlank '\x60' = false)
  exact (closed.dropWhile quote).dropEndWhile quote

theorem respaced_readName (respaced : Respaced first second) :
    RespacedMarked (readName first) (readName second) := by
  have ampersand := Respaced.treatsAlike_beq (by decide : isBlank '&' = false)
  have dollar := Respaced.treatsAlike_beq (by decide : isBlank '$' = false)
  have name := (respaced_unwrapName respaced).dropWhile ampersand
  have dots := name.stripStart? dots_visible
  rw [readName, readName]
  simp only
  generalize (unwrapName first).dropWhile (· == '&') = marked at name dots ⊢
  generalize (unwrapName second).dropWhile (· == '&') = other at name dots ⊢
  generalize stripStart? ['.', '.', '.'] marked = rest at dots ⊢
  generalize stripStart? ['.', '.', '.'] other = otherRest at dots ⊢
  cases dots with
  | none => exact ⟨(name.dropWhile ampersand).dropWhile dollar, rfl⟩
  | some later => exact ⟨(later.dropWhile ampersand).dropWhile dollar, rfl⟩

/-! ## Parameters -/

theorem respaced_readDots (respaced : Respaced first second) :
    RespacedMarked (readDots first) (readDots second) := by
  have dots := respaced.stripEnd? dots_visible
  rw [readDots, readDots]
  generalize stripEnd? ['.', '.', '.'] first = rest at dots ⊢
  generalize stripEnd? ['.', '.', '.'] second = other at dots ⊢
  cases dots with
  | none => exact ⟨respaced, rfl⟩
  | some later => exact ⟨later, rfl⟩

theorem describe_congr {type? other? : Option (List Char)} (types : Respaced.Both type? other?)
    {word other : List Char} (words : Respaced word other) :
    describe type? word = describe other? other := by
  have names := respaced_readName words
  have noBlanks (name : List Char) (identifier : isIdentifier name = true) :
      ∀ character ∈ name, isBlank character = false := fun _ member =>
    isBlank_of_isIdentifierPart (isIdentifierPart_of_mem identifier member)
  have marked : Option.Rel RespacedMarked (type?.map readDots) (other?.map readDots) :=
    rel_map (fun _ _ => respaced_readDots) types
  rw [describe, describe]
  simp only [names.2]
  generalize type?.map readDots = dots at marked ⊢
  generalize other?.map readDots = otherDots at marked ⊢
  rcases names.1.eq_or_not noBlanks with same | ⟨unnamed, otherUnnamed⟩
  · rw [same]
    cases marked with
    | none => rfl
    | some marked =>
        simp only [Option.bind_some, Option.any_some, marked.2,
          UnionType.toOption_parse_congr marked.1]
  · rw [if_neg unnamed, if_neg otherUnnamed]

theorem read_congr (respaced : Respaced first second) : read first = read second := by
  have parts := respaced_splitType? respaced.trim
  rw [read, read]
  generalize splitType? (trim first) = cut at parts ⊢
  generalize splitType? (trim second) = otherCut at parts ⊢
  cases parts with
  | none => rfl
  | some parts =>
      simp only [isNameToken_congr parts.1]
      split
      · exact describe_congr .none parts.1
      · rw [parts.2.trimStart.firstWord_eq]
        exact describe_congr (.some parts.1) (.refl _)

end ParamTypes.ParamTag
