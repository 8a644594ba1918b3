import ParamTypes.Comment.Line
import ParamTypes.Proofs.Text

/-!
What is skipped in front of a tag: the blanks and the closed sections in backticks that
a text begins with, as many as there are.

A text is cut behind them in one way only (`Line.IsQuotedCut.unique`). Skipping cuts it
there, in turns of which each takes off two characters at least (`Line.skipQuoted_exact`).
-/

namespace ParamTypes.Line

open Text

/-! ## The cut -/

/-- Blanks and closed sections in backticks, one behind another. -/
inductive IsSkippable : (text : List Char) → Prop
  | nil : IsSkippable []
  | blank {character : Char} {rest : List Char} (isBlankHere : isBlank character = true)
      (skippable : IsSkippable rest) : IsSkippable (character :: rest)
  | quoted {inner rest : List Char} (unquoted : '\x60' ∉ inner)
      (skippable : IsSkippable rest) : IsSkippable ('\x60' :: (inner ++ '\x60' :: rest))

structure IsSettled (text : List Char) : Prop where
  visible : ∀ first ∈ text.head?, isBlank first = false
  unclosed : ∀ rest, text = '\x60' :: rest → '\x60' ∉ rest

/-- A text that is cut behind all blanks and closed sections at its beginning. -/
structure IsQuotedCut (text skipped rest : List Char) : Prop where
  joined : skipped ++ rest = text
  isSkippable : IsSkippable skipped
  isSettled : IsSettled rest

structure IsLongestCut (text skipped rest : List Char) : Prop where
  joined : skipped ++ rest = text
  isSkippable : IsSkippable skipped
  longest : ∀ before, IsSkippable before → before <+: text → before <+: skipped

theorem IsSkippable.append {text rest : List Char} (skippable : IsSkippable text)
    (later : IsSkippable rest) : IsSkippable (text ++ rest) := by
  induction skippable with
  | nil => exact later
  | blank isBlankHere skippable induction => exact .blank isBlankHere induction
  | quoted unquoted skippable induction =>
      rw [List.cons_append, List.append_assoc]
      exact .quoted unquoted induction

theorem IsSkippable.of_blanks {blanks : List Char}
    (areBlank : ∀ blank ∈ blanks, isBlank blank = true) : IsSkippable blanks := by
  induction blanks with
  | nil => exact .nil
  | cons blank blanks induction =>
      rw [List.forall_mem_cons] at areBlank
      exact .blank areBlank.1 (induction areBlank.2)

theorem IsSkippable.eq_nil {text rest : List Char} (skippable : IsSkippable text)
    (settled : IsSettled (text ++ rest)) : text = [] := by
  cases skippable with
  | nil => rfl
  | blank isBlankHere skippable =>
      have visible := settled.visible _ rfl
      rw [isBlankHere] at visible
      cases visible
  | @quoted inner _ unquoted skippable =>
      refine absurd ?_ (settled.unclosed _ rfl)
      exact List.mem_append_left _ (List.mem_append_right inner List.mem_cons_self)

theorem isSettled_at (marked : List Char) : IsSettled ('@' :: marked) where
  visible := by
    intro first begins
    cases begins
    decide
  unclosed := by
    intro rest begins
    cases begins

theorem section_unique {inner other rest behind : List Char} (unquoted : '\x60' ∉ inner)
    (otherUnquoted : '\x60' ∉ other)
    (same : inner ++ '\x60' :: rest = other ++ '\x60' :: behind) :
    inner = other ∧ rest = behind := by
  have upToQuote {inner : List Char} (unquoted : '\x60' ∉ inner) (rest : List Char) :
      (inner ++ '\x60' :: rest).takeWhile (· ≠ '\x60') = inner := by
    apply takeWhile_append_of_head
    · intro character member
      exact decide_eq_true (ne_of_mem_of_not_mem member unquoted)
    · intro quote begins
      cases begins
      rfl
  obtain rfl : inner = other := by
    rw [← upToQuote unquoted rest, same, upToQuote otherUnquoted]
  exact ⟨rfl, (List.cons.inj (List.append_cancel_left same)).2⟩

namespace IsQuotedCut

variable {text skipped rest : List Char}

theorem blank_cons {character : Char} (isBlankHere : isBlank character = true)
    (cut : IsQuotedCut (character :: text) skipped rest) :
    ∃ later, skipped = character :: later ∧ IsQuotedCut text later rest := by
  rcases cut with ⟨joined, skippable, settled⟩
  cases skippable with
  | nil =>
      cases joined
      cases (IsSkippable.blank isBlankHere .nil).eq_nil settled
  | blank _ skippable =>
      cases joined
      exact ⟨_, rfl, rfl, skippable, settled⟩
  | quoted unquoted skippable =>
      rcases List.cons.inj joined with ⟨rfl, _⟩
      cases isBlankHere

theorem quoted_cons {inner : List Char} (unquoted : '\x60' ∉ inner)
    (cut : IsQuotedCut ('\x60' :: (inner ++ '\x60' :: text)) skipped rest) :
    ∃ later, skipped = '\x60' :: (inner ++ '\x60' :: later) ∧ IsQuotedCut text later rest := by
  rcases cut with ⟨joined, skippable, settled⟩
  cases skippable with
  | nil =>
      cases joined
      exact absurd (List.mem_append_right inner List.mem_cons_self)
        (settled.unclosed _ rfl)
  | blank isBlankHere skippable =>
      rcases List.cons.inj joined with ⟨rfl, _⟩
      cases isBlankHere
  | @quoted other later otherUnquoted skippable =>
      rw [List.cons_append, List.append_assoc, List.cons_append] at joined
      rcases section_unique otherUnquoted unquoted (List.cons.inj joined).2 with ⟨rfl, behind⟩
      exact ⟨later, rfl, behind, skippable, settled⟩

theorem skippable_append {before : List Char} (skippable : IsSkippable before)
    (cut : IsQuotedCut (before ++ text) skipped rest) :
    ∃ later, skipped = before ++ later ∧ IsQuotedCut text later rest := by
  induction skippable generalizing skipped with
  | nil => exact ⟨skipped, rfl, cut⟩
  | blank isBlankHere skippable induction =>
      rcases cut.blank_cons isBlankHere with ⟨more, rfl, restCut⟩
      rcases induction restCut with ⟨later, rfl, laterCut⟩
      exact ⟨later, rfl, laterCut⟩
  | quoted unquoted skippable induction =>
      rw [List.cons_append, List.append_assoc] at cut
      rcases cut.quoted_cons unquoted with ⟨more, rfl, restCut⟩
      rcases induction restCut with ⟨later, rfl, laterCut⟩
      exact ⟨later, by simp, laterCut⟩

theorem unique {other behind : List Char} (cut : IsQuotedCut text skipped rest)
    (otherCut : IsQuotedCut text other behind) : other = skipped ∧ behind = rest := by
  rw [← otherCut.joined] at cut
  rcases cut.skippable_append otherCut.isSkippable with ⟨later, rfl, laterCut⟩
  have settled := otherCut.isSettled
  rw [← laterCut.joined] at settled
  obtain rfl := laterCut.isSkippable.eq_nil settled
  exact ⟨(List.append_nil other).symm, laterCut.joined.symm⟩

theorem isLongestCut (cut : IsQuotedCut text skipped rest) :
    IsLongestCut text skipped rest := by
  refine ⟨cut.joined, cut.isSkippable, ?_⟩
  intro before skippable begins
  rcases begins with ⟨behind, rfl⟩
  rcases cut.skippable_append skippable with ⟨later, rfl, _⟩
  exact List.prefix_append before later

end IsQuotedCut

/-! ## Turns -/

/-- Skipping in turns, of which each takes off blanks and a closed section. It ends with
the blanks behind which no closed section begins. -/
inductive SkipsIn : (turns : Nat) → (text rest : List Char) → Prop
  | stop {blanks rest : List Char} (areBlank : ∀ blank ∈ blanks, isBlank blank = true)
      (settled : IsSettled rest) : SkipsIn 0 (blanks ++ rest) rest
  | turn {turns : Nat} {blanks inner text rest : List Char}
      (areBlank : ∀ blank ∈ blanks, isBlank blank = true) (unquoted : '\x60' ∉ inner)
      (later : SkipsIn turns text rest) :
      SkipsIn (turns + 1) (blanks ++ '\x60' :: (inner ++ '\x60' :: text)) rest

namespace SkipsIn

variable {turns : Nat} {text rest : List Char}

theorem exists_isQuotedCut (skips : SkipsIn turns text rest) :
    ∃ skipped, IsQuotedCut text skipped rest := by
  induction skips with
  | @stop blanks rest areBlank settled => exact ⟨blanks, rfl, .of_blanks areBlank, settled⟩
  | @turn _ blanks inner _ _ areBlank unquoted later induction =>
      rcases induction with ⟨skipped, joined, skippable, settled⟩
      refine ⟨blanks ++ '\x60' :: (inner ++ '\x60' :: skipped), ?_, ?_, settled⟩
      · simp [joined]
      · exact (IsSkippable.of_blanks areBlank).append (.quoted unquoted skippable)

theorem length_le (skips : SkipsIn turns text rest) :
    2 * turns + rest.length ≤ text.length := by
  induction skips with
  | stop areBlank settled =>
      rw [List.length_append]
      omega
  | turn areBlank unquoted later induction =>
      simp only [List.length_append, List.length_cons]
      omega

end SkipsIn

theorem SkipsIn.of_unclosed {text : List Char}
    (unclosed : ∀ rest, trimStart text = '\x60' :: rest → '\x60' ∉ rest) :
    SkipsIn 0 text (trimStart text) := by
  rcases exists_blanks text with ⟨blanks, parts, areBlank⟩
  have settled : IsSettled (trimStart text) :=
    ⟨fun _ => isBlank_of_mem_head?_trimStart, unclosed⟩
  have stops := SkipsIn.stop areBlank settled
  rwa [← parts] at stops

theorem exists_section {text after : List Char} {close : Char}
    (closes : text.dropWhile (· ≠ '\x60') = close :: after) :
    ∃ inner, text = inner ++ '\x60' :: after ∧ '\x60' ∉ inner := by
  have isQuote : close = '\x60' := by
    have stops := List.head?_dropWhile_not (· ≠ '\x60') text
    rw [closes] at stops
    simpa using stops
  refine ⟨text.takeWhile (· ≠ '\x60'), ?_, ?_⟩
  · have parts := List.takeWhile_append_dropWhile (p := (· ≠ '\x60')) (l := text)
    rw [closes, isQuote] at parts
    exact parts.symm
  · intro member
    simpa using List.mem_takeWhile_imp member

theorem exists_skipsIn (text : List Char) :
    ∃ turns, SkipsIn turns text (skipQuoted text) := by
  fun_induction skipQuoted text with
  | case1 text inner starts close after closes induction =>
      rcases induction with ⟨turns, later⟩
      rcases exists_blanks text with ⟨blanks, parts, areBlank⟩
      rcases exists_section closes with ⟨quoted, isInner, unquoted⟩
      rw [parts, starts, isInner]
      exact ⟨turns + 1, .turn areBlank unquoted later⟩
  | case2 text inner starts unclosed =>
      rw [← starts]
      refine ⟨0, .of_unclosed ?_⟩
      intro rest begins member
      obtain rfl : inner = rest := (List.cons.inj (starts.symm.trans begins)).2
      simpa using List.dropWhile_eq_nil_iff.mp unclosed _ member
  | case3 text unquoted =>
      refine ⟨0, .of_unclosed ?_⟩
      intro rest begins
      exact absurd begins (unquoted rest)

/-! ## What skipping leaves -/

theorem skipQuoted_eq_iff {text rest : List Char} :
    skipQuoted text = rest ↔ ∃ skipped, IsQuotedCut text skipped rest := by
  rcases exists_skipsIn text with ⟨turns, skips⟩
  rcases skips.exists_isQuotedCut with ⟨skipped, cut⟩
  constructor
  · intro same
    rw [← same]
    exact ⟨skipped, cut⟩
  · intro ⟨other, otherCut⟩
    exact (otherCut.unique cut).2

theorem skipQuoted_of_isSettled {text : List Char} (settled : IsSettled text) :
    skipQuoted text = text :=
  skipQuoted_eq_iff.mpr ⟨[], rfl, .nil, settled⟩

theorem skipQuoted_append {text marked : List Char} (isTag : skipQuoted text = '@' :: marked)
    (rest : List Char) : skipQuoted (text ++ rest) = '@' :: (marked ++ rest) := by
  rcases skipQuoted_eq_iff.mp isTag with ⟨skipped, rfl, skippable, _⟩
  refine skipQuoted_eq_iff.mpr ⟨skipped, ?_, skippable, isSettled_at _⟩
  rw [List.append_assoc]
  rfl

theorem isLongestCut_iff {text skipped rest : List Char} :
    IsLongestCut text skipped rest ↔ IsQuotedCut text skipped rest := by
  refine ⟨?_, IsQuotedCut.isLongestCut⟩
  intro cut
  rcases skipQuoted_eq_iff.mp (rfl : skipQuoted text = _) with ⟨other, otherCut⟩
  have further := cut.longest other otherCut.isSkippable ⟨_, otherCut.joined⟩
  have back := otherCut.isLongestCut.longest skipped cut.isSkippable ⟨_, cut.joined⟩
  obtain rfl : skipped = other := back.eq_of_length (back.length_le.antisymm further.length_le)
  obtain rfl : rest = skipQuoted text :=
    List.append_cancel_left (cut.joined.trans otherCut.joined.symm)
  exact otherCut

theorem read_eq_tag_iff {line word rest : List Char} :
    read line = .tag word rest ↔ ∃ skipped marked,
      IsQuotedCut (content line) skipped ('@' :: marked) ∧
        firstWord marked = word ∧ afterFirstWord marked = rest := by
  rw [read]
  split
  · rename_i marked begins
    rcases skipQuoted_eq_iff.mp begins with ⟨skipped, cut⟩
    constructor
    · intro same
      cases same
      exact ⟨skipped, marked, cut, rfl, rfl⟩
    · intro ⟨other, otherMarked, otherCut, isWord, isRest⟩
      cases (otherCut.unique cut).2
      rw [isWord, isRest]
  · rename_i noTag
    constructor
    · intro same
      cases same
    · intro ⟨skipped, marked, cut, _⟩
      exact absurd (skipQuoted_eq_iff.mpr ⟨skipped, cut⟩) (noTag marked)

/-- Skipping ends after at most half as many turns as there are characters. It cuts off
the longest beginning that is made up of blanks and closed sections in backticks; what is
left begins with no blank, and with a backtick only if that is never closed. Skipping
once more changes nothing. A line holds a tag exactly if an at sign is left in front. -/
theorem skipQuoted_exact (text : List Char) :
    (∃ turns, SkipsIn turns text (skipQuoted text) ∧
      2 * turns + (skipQuoted text).length ≤ text.length) ∧
    (∃ skipped, IsLongestCut text skipped (skipQuoted text)) ∧
    (∀ first ∈ (skipQuoted text).head?, isBlank first = false) ∧
    (∀ rest, skipQuoted text = '\x60' :: rest → '\x60' ∉ rest) ∧
    skipQuoted (skipQuoted text) = skipQuoted text ∧
    ∀ line word rest, read line = .tag word rest ↔ ∃ skipped marked,
      IsLongestCut (content line) skipped ('@' :: marked) ∧
        firstWord marked = word ∧ afterFirstWord marked = rest := by
  rcases exists_skipsIn text with ⟨turns, skips⟩
  rcases skips.exists_isQuotedCut with ⟨skipped, cut⟩
  refine ⟨⟨turns, skips, skips.length_le⟩, ⟨skipped, cut.isLongestCut⟩,
    cut.isSettled.visible, cut.isSettled.unclosed, ?_, ?_⟩
  · exact skipQuoted_of_isSettled cut.isSettled
  · intro line word rest
    simp only [isLongestCut_iff]
    exact read_eq_tag_iff

end ParamTypes.Line
