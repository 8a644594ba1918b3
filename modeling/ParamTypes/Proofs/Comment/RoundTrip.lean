import ParamTypes.Proofs.Comment.EmptyLines
import ParamTypes.Proofs.Comment.QuotedSections
import ParamTypes.Proofs.Comment.WrittenTag

/-!
Written comments: lines with parameter tags, and any other lines around them,
between the delimiters. Reading such a comment gives back what its tags say.
-/

namespace ParamTypes

open Text

/-! ## Lines with a gutter -/

namespace Line

def gutter : List Char :=
  [' ', '*', ' ']

theorem content_gutter {text : List Char} (nonempty : text ≠ [])
    (first : ∀ character ∈ text.head?, isBlank character = false)
    (last : ∀ character ∈ text.getLast?, isBlank character = false) (after : List Char) :
    content (gutter ++ (text ++ after)) = text ++ trimEnd after := by
  have space : ∀ blank ∈ [' '], isBlank blank = true := List.all_eq_true.mp rfl
  have trimmed := trim_append_of_ends (List.forall_mem_nil _) nonempty first last after
  rw [List.nil_append] at trimmed
  exact (content_behind_stars space 0 (text ++ after)).trans trimmed

end Line

namespace Comment

/-! ## Lines with a parameter tag -/

structure TagLine where
  lead : ParamTag.Gap
  entry : ParamTag.Entry
  description : List Char
  separated : ∀ character ∈ description.head?, isBlank character = true
  oneLine : '\n' ∉ description

namespace TagLine

def text (line : TagLine) : List Char :=
  Line.gutter ++ '@' ::
    ("param".toList ++ (line.lead.blanks ++ (line.entry.text ++ line.description)))

theorem not_mem_text (line : TagLine) : '\n' ∉ line.text := by
  have noTag : '\n' ∉ Line.gutter ++ '@' :: "param".toList := by decide
  rw [text, ← List.append_assoc, ← List.cons_append]
  simp_all [line.lead.oneLine, line.entry.not_mem_text, line.oneLine]

theorem content_text (line : TagLine) :
    Line.content line.text = '@' :: ("param".toList ++
      (line.lead.blanks ++ (line.entry.text ++ trimEnd line.description))) := by
  have begins : ∀ character ∈
      ('@' :: ("param".toList ++ line.lead.blanks ++ line.entry.text)).head?,
      isBlank character = false := by
    intro character isFirst
    cases isFirst
    decide
  have ends : ∀ character ∈
      ('@' :: ("param".toList ++ line.lead.blanks ++ line.entry.text)).getLast?,
      isBlank character = false := by
    rw [← List.cons_append, List.getLast?_append_of_ne_nil _ line.entry.text_ne_nil]
    exact line.entry.isBlank_of_mem_getLast?_text
  have cut := Line.content_gutter (List.cons_ne_nil _ _) begins ends line.description
  simpa only [text, List.cons_append, List.append_assoc] using cut

theorem read_text (line : TagLine) :
    Line.read line.text = .tag "param".toList
      (line.lead.blanks ++ (line.entry.text ++ trimEnd line.description)) := by
  have word : ∀ character ∈ "param".toList, (!isBlank character) = true :=
    List.all_eq_true.mp (by decide)
  have stops : ∀ character ∈
      (line.lead.blanks ++ (line.entry.text ++ trimEnd line.description)).head?,
      (!isBlank character) = false := by
    intro character begins
    rw [List.head?_append_of_ne_nil _ line.lead.nonempty] at begins
    simp [line.lead.areBlank character (List.mem_of_mem_head? begins)]
  rw [Line.read, line.content_text, Line.skipQuoted_of_isSettled (Line.isSettled_at _)]
  simp only [firstWord, afterFirstWord, takeWhile_append_of_head word stops,
    dropWhile_append_of_head word stops]

theorem parameter?_block (line : TagLine) (lines : List Line) :
    Block.parameter? ⟨"param".toList,
      line.lead.blanks ++ (line.entry.text ++ trimEnd line.description) ++
        Block.continuation lines⟩ = some line.entry.documented := by
  have isParam : Block.isParam ⟨"param".toList,
      line.lead.blanks ++ (line.entry.text ++ trimEnd line.description) ++
        Block.continuation lines⟩ = true := rfl
  rw [Block.parameter?, isParam, if_pos rfl, List.append_assoc, List.append_assoc,
    line.entry.read_text line.lead.areBlank]
  intro character begins
  cases behind : trimEnd line.description with
  | nil =>
      rw [behind, List.nil_append] at begins
      exact Block.isBlank_of_mem_head?_continuation begins
  | cons first rest =>
      rw [behind] at begins
      apply line.separated
      apply head?_dropEndWhile
      rw [← trimEnd, behind]
      exact begins

end TagLine

/-! ## Whole comments -/

inductive WrittenLine
  | tag (line : TagLine)
  | extra (text : List Char) (oneLine : '\n' ∉ text)
      (noParam : ∀ rest, Line.read text ≠ .tag "param".toList rest)

namespace WrittenLine

def text : WrittenLine → List Char
  | .tag line => line.text
  | .extra text _ _ => text

def documented? : WrittenLine → Option DocParameter
  | .tag line => some line.entry.documented
  | .extra _ _ _ => none

theorem not_mem_text (line : WrittenLine) : '\n' ∉ line.text := by
  cases line with
  | tag line => exact line.not_mem_text
  | extra text oneLine noParam => exact oneLine

/-- The blocks of the lines document what the tag lines say. A line between
them adds to the text of a tag or begins a block of another tag. -/
theorem filterMap_blocks (lines : List WrittenLine) {behind : List Line}
    (noBlocks : Block.all behind = []) :
    (Block.all (lines.map (Line.read ·.text) ++ behind)).filterMap Block.parameter? =
      lines.filterMap documented? := by
  induction lines with
  | nil =>
      rw [List.map_nil, List.nil_append, noBlocks]
      rfl
  | cons line lines induction =>
      rw [List.map_cons, List.cons_append]
      cases line with
      | tag line =>
          have same : (WrittenLine.tag line).text = line.text := rfl
          rw [same, line.read_text, Block.all, List.filterMap_cons, line.parameter?_block,
            induction]
          rfl
      | extra text oneLine noParam =>
          have same : (WrittenLine.extra text oneLine noParam).text = text := rfl
          rw [same]
          cases read : Line.read text with
          | text content =>
              rw [Block.all, induction]
              rfl
          | tag word rest =>
              have other : Tag.ofWord? word ≠ some .param := by
                intro isParam
                rw [Tag.ofWord?_eq_param_iff.mp isParam] at read
                exact noParam rest read
              have nothing : Block.parameter?
                  ⟨word, rest ++ Block.continuation
                    (lines.map (Line.read ·.text) ++ behind)⟩ = none := by
                rw [Block.parameter?, Block.isParam, decide_eq_false other]
                rfl
              rw [Block.all, List.filterMap_cons, nothing, induction]
              rfl

end WrittenLine

structure Written where
  lines : List WrittenLine
  indent : List Char
  areBlank : ∀ blank ∈ indent, isBlank blank = true
  oneLine : '\n' ∉ indent

namespace Written

def bodyLines (written : Written) : List (List Char) :=
  [] :: written.lines.map WrittenLine.text ++ [written.indent]

def text (written : Written) : List Char :=
  "/**".toList ++ (['\n'].intercalate written.bodyLines ++ "*/".toList)

theorem body_text (written : Written) :
    Line.body written.text = ['\n'].intercalate written.bodyLines := by
  have trimmed : trim written.text = written.text := by
    apply trim_of_ends
    · intro first begins
      cases begins
      decide
    · intro last ends
      rw [text, ← List.append_assoc,
        List.getLast?_append_of_ne_nil _ (by decide)] at ends
      cases ends
      decide
  have opened : stripStart? ['/', '*', '*'] written.text =
      some (['\n'].intercalate written.bodyLines ++ "*/".toList) :=
    stripStart?_eq_some_iff.mpr rfl
  have closed : stripEnd? ['*', '/'] (['\n'].intercalate written.bodyLines ++ "*/".toList) =
      some (['\n'].intercalate written.bodyLines) :=
    stripEnd?_eq_some_iff.mpr rfl
  rw [Line.body, trimmed, opened, Option.getD_some, closed, Option.getD_some]

theorem readPieces_text (written : Written) :
    Line.readPieces (Line.body written.text) =
      .text [] :: (written.lines.map (Line.read ·.text) ++ [.text []]) := by
  have oneLine : ∀ line ∈ written.bodyLines, '\n' ∉ line := by
    intro line member
    simp only [bodyLines, List.cons_append, List.mem_cons, List.mem_append, List.mem_map,
      List.not_mem_nil, or_false] at member
    rcases member with rfl | ⟨line, _, rfl⟩ | rfl
    · exact List.not_mem_nil
    · exact line.not_mem_text
    · exact written.oneLine
  have nonempty : written.bodyLines ≠ [] := by simp [bodyLines]
  have opening : Line.read [] = .text [] := Line.read_of_blank (by simp)
  have closing : Line.read written.indent = .text [] := Line.read_of_blank written.areBlank
  rw [Line.readPieces, body_text, List.splitOn_intercalate '\n' oneLine nonempty]
  simp [bodyLines, opening, closing]

/-- Reading a written comment gives back what its tag lines say, one entry for
each and in their order. -/
theorem parameters_parse_text (written : Written) :
    (parse (String.ofList written.text)).parameters =
      written.lines.filterMap WrittenLine.documented? := by
  rw [parse_eq_ofLines_readPieces, String.toList_ofList, parameters_ofLines, readPieces_text,
    Block.all]
  exact WrittenLine.filterMap_blocks written.lines rfl

/-- Bare and braced types, dots in front of a name and behind a type, wrapped, plain and
untyped names, and other lines in front of the tags, between them and behind them. -/
theorem parameters_parse_text_mixed :
    let source := "\n".intercalate [
      "/**", " * Adds up.", " * @param array<int, A> $first of all", " *   that are given",
      " * @param\t\x7bint | null\x7d [$second=null]", " * @param string... rest",
      " * @param &...$others", " * @return int", " */"]
    (parse source).parameters = [
      ⟨"first", .ofKeyword .array, false⟩,
      ⟨"second", .ofList [.keyword .int, .keyword .null], false⟩,
      ⟨"rest", .ofKeyword .string, true⟩, ⟨"others", ∅, true⟩] := by
  intro source
  let space : ParamTag.Gap := ⟨[' '], by decide, List.all_eq_true.mp rfl, by decide⟩
  let tab : ParamTag.Gap := ⟨['\t'], by decide, List.all_eq_true.mp rfl, by decide⟩
  let array : ParamTag.Spelling :=
    ⟨"array<int, A>".toList, .ofKeyword .array, by cbv, by decide, by decide⟩
  let nullable : ParamTag.Spelling :=
    ⟨"int | null".toList, .ofList [.keyword .int, .keyword .null], by cbv, by decide, by decide⟩
  let string : ParamTag.Spelling :=
    ⟨"string".toList, .ofKeyword .string, by cbv, by decide, by decide⟩
  let first : TagLine :=
    { lead := space
      entry := .typed array (.bare (by decide) (by decide)) false space .plain
        ⟨"first".toList, by decide +kernel, 0, false, 0, 1⟩
      description := " of all".toList
      separated := by
        intro character begins
        cases begins
        decide
      oneLine := by decide }
  let second : TagLine :=
    { lead := tab
      entry := .typed nullable (.braced (by decide) (by decide)) false space
        (.withDefault "null".toList fun _ => eq_false_of_mem (by decide))
        ⟨"second".toList, by decide +kernel, 0, false, 0, 1⟩
      description := []
      separated := by simp
      oneLine := List.not_mem_nil }
  let rest : TagLine :=
    { lead := space
      entry := .typed string (.bare (by decide) (by decide)) true space .plain
        ⟨"rest".toList, by decide +kernel, 0, false, 0, 0⟩
      description := []
      separated := by simp
      oneLine := List.not_mem_nil }
  let others : TagLine :=
    { lead := space
      entry := .untyped ⟨"others".toList, by decide +kernel, 1, true, 0, 1⟩ (.inl rfl)
      description := []
      separated := by simp
      oneLine := List.not_mem_nil }
  let written : Written :=
    { lines := [
        .extra " * Adds up.".toList (by decide) (by
          have isText : Line.read " * Adds up.".toList = .text "Adds up.".toList := by cbv
          rw [isText]
          simp),
        .tag first,
        .extra " *   that are given".toList (by decide) (by
          have isText : Line.read " *   that are given".toList =
              .text "that are given".toList := by
            cbv
          rw [isText]
          simp),
        .tag second, .tag rest, .tag others,
        .extra " * @return int".toList (by decide) (by
          have isTag : Line.read " * @return int".toList = .tag "return".toList " int".toList := by
            cbv
          rw [isTag]
          simp)]
      indent := [' ']
      areBlank := List.all_eq_true.mp rfl
      oneLine := by decide }
  have isText : String.ofList written.text = source := by decide +kernel
  have parsed := parameters_parse_text written
  rwa [isText] at parsed

/-- A spelling in braces is trimmed before it is told from a name, so a dollar
sign is taken for that of a name although a blank stands in front of it. -/
theorem parameters_parse_braced_dollar :
    UnionType.parse " $x[]" = .ok (.ofKeyword .array) ∧
      ParamTag.isNameToken " $x[]".toList = false ∧
      '\x7b' ∉ " $x[]".toList ∧ '\x7d' ∉ " $x[]".toList ∧
      (parse "/**\n * @param \x7b $x[]\x7d $n\n */").parameters ≠
        [⟨"n", .ofKeyword .array, false⟩] := by
  refine ⟨?_, ?_, ?_, ?_, ?_⟩
  · cbv
  · decide
  · decide
  · decide
  · decide +kernel

end Written

end Comment

end ParamTypes
