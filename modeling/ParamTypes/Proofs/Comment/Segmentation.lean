import ParamTypes.Proofs.Comment.Blocks

/-!
The lines of a comment cut at its tags. A section is a line that holds a tag and
the lines behind it that hold none; the lines in front of the first section are
the preamble. Every list of lines is cut in exactly one way
(`Segmentation.lines_of`, `Segmentation.of_lines`).

The parameters and the return type of a comment are what its sections give
(`Comment.parse_sections`).
-/

namespace ParamTypes

open Text

/-! ## Tag lines -/

namespace Line

def bodyLines (comment : List Char) : List (List Char) :=
  lines (body comment)

/-- Whether an at sign is the first of what is left of a line without its gutter
and the closed sections in backticks at its beginning. -/
def IsTag (line : List Char) : Prop :=
  (skipQuoted (content line)).head? = some '@'

instance (line : List Char) : Decidable (IsTag line) :=
  inferInstanceAs (Decidable ((skipQuoted (content line)).head? = some '@'))

def marked (line : List Char) : List Char :=
  (skipQuoted (content line)).tail

theorem read_of_isTag {line : List Char} (isTag : IsTag line) :
    read line = .tag (firstWord (marked line)) (afterFirstWord (marked line)) := by
  rcases List.head?_eq_some_iff.mp isTag with ⟨rest, begins⟩
  rw [read, marked, begins]
  rfl

theorem read_of_not_isTag {line : List Char} (isText : ¬ IsTag line) :
    read line = .text (content line) := by
  rw [read]
  split
  · rename_i rest begins
    exact absurd (List.head?_eq_some_iff.mpr ⟨rest, begins⟩) isText
  · rfl

end Line

/-! ## Usable tags -/

namespace ParamTag

/-- The word in which a tag has its name: the first one, or the one behind the
type expression. -/
def nameWord (first behind : List Char) : List Char :=
  if isNameToken first then first else firstWord (trimStart behind)

/-- The name that a parameter tag with some text documents, if there is an
identifier in its place. -/
def name? (text : List Char) : Option (List Char) :=
  (splitType? (trim text)).bind fun (first, behind) =>
    let name := (readName (nameWord first behind)).1
    if isIdentifier name then some name else none

theorem read_of_splitType? {text first behind : List Char}
    (split : splitType? (trim text) = some (first, behind)) :
    read text =
      describe (if isNameToken first then none else some first) (nameWord first behind) := by
  rw [read, split, nameWord]
  by_cases untyped : isNameToken first = true <;> simp [untyped]

theorem name_read_of_name? {text name : List Char} (named : name? text = some name) :
    (read text).name = String.ofList name := by
  rcases Option.bind_eq_some_iff.mp named with ⟨⟨first, behind⟩, split, found⟩
  rcases Option.ite_none_right_eq_some.mp found with ⟨identifier, same⟩
  obtain rfl : (readName (nameWord first behind)).1 = name := Option.some.inj same
  rw [read_of_splitType? split, describe]
  simp only [identifier, if_true]

theorem read_of_name?_eq_none {text : List Char} (unnamed : name? text = none) :
    read text = ⟨"", ∅, false⟩ := by
  cases split : splitType? (trim text) with
  | none =>
      rw [read, split]
      rfl
  | some parts =>
      have noName : ¬ isIdentifier (readName (nameWord parts.1 parts.2)).1 = true := by
        simpa [name?, split] using unnamed
      rw [read_of_splitType? split, describe]
      simp only [noName]
      rfl

end ParamTag

namespace Comment

/-! ## Sections -/

/-- A tag line with the lines of text that go on with it. -/
@[ext] structure Section where
  header : List Char
  others : List (List Char)
  isTag : Line.IsTag header
  areText : ∀ line ∈ others, ¬ Line.IsTag line

namespace Section

def lines (part : Section) : List (List Char) :=
  part.header :: part.others

def word (part : Section) : List Char :=
  firstWord (Line.marked part.header)

/-- The rest of the tag line, and the other lines without their gutters, each
behind a space. -/
def text (part : Section) : List Char :=
  afterFirstWord (Line.marked part.header) ++
    part.others.flatMap (' ' :: Line.content ·)

def block (part : Section) : Block :=
  ⟨part.word, part.text⟩

end Section

/-! ## Segmentations -/

@[ext] structure Segmentation where
  preamble : List (List Char)
  sections : List Section
  areText : ∀ line ∈ preamble, ¬ Line.IsTag line

namespace Segmentation

def lines (parts : Segmentation) : List (List Char) :=
  parts.preamble ++ parts.sections.flatMap Section.lines

/-- The segmentation of some lines: a tag line opens a section and takes the
preamble of the lines behind it, any other line joins this preamble. -/
def of : (lines : List (List Char)) → Segmentation
  | [] => ⟨[], [], List.forall_mem_nil _⟩
  | line :: lines =>
      let later := of lines
      if isTag : Line.IsTag line then
        ⟨[], ⟨line, later.preamble, isTag, later.areText⟩ :: later.sections, List.forall_mem_nil _⟩
      else
        ⟨line :: later.preamble, later.sections, List.forall_mem_cons.mpr
          ⟨isTag, later.areText⟩⟩

theorem of_cons_of_isTag {line : List Char} (isTag : Line.IsTag line)
    (lines : List (List Char)) :
    of (line :: lines) =
      ⟨[], ⟨line, (of lines).preamble, isTag, (of lines).areText⟩ :: (of lines).sections,
        List.forall_mem_nil _⟩ :=
  dif_pos isTag

theorem of_cons_of_not_isTag {line : List Char} (isText : ¬ Line.IsTag line)
    (lines : List (List Char)) :
    of (line :: lines) =
      ⟨line :: (of lines).preamble, (of lines).sections,
        List.forall_mem_cons.mpr ⟨isText, (of lines).areText⟩⟩ :=
  dif_neg isText

theorem lines_of (lines : List (List Char)) : (of lines).lines = lines := by
  induction lines with
  | nil => rfl
  | cons line lines induction =>
      rw [Segmentation.lines] at induction
      by_cases isTag : Line.IsTag line
      · simp [of_cons_of_isTag isTag, Segmentation.lines, Section.lines, induction]
      · simp [of_cons_of_not_isTag isTag, Segmentation.lines, induction]

theorem of_append {texts : List (List Char)} (areText : ∀ line ∈ texts, ¬ Line.IsTag line)
    (lines : List (List Char)) :
    (of (texts ++ lines)).preamble = texts ++ (of lines).preamble ∧
      (of (texts ++ lines)).sections = (of lines).sections := by
  induction texts with
  | nil => exact ⟨rfl, rfl⟩
  | cons text texts induction =>
      rw [List.forall_mem_cons] at areText
      rcases induction areText.2 with ⟨preamble, sections⟩
      rw [List.cons_append, of_cons_of_not_isTag areText.1]
      exact ⟨congrArg (text :: ·) preamble, sections⟩

theorem of_flatMap_lines (sections : List Section) :
    of (sections.flatMap Section.lines) = ⟨[], sections, List.forall_mem_nil _⟩ := by
  induction sections with
  | nil => rfl
  | cons part sections induction =>
      rcases of_append part.areText (sections.flatMap Section.lines) with ⟨preamble, others⟩
      rw [induction, List.append_nil] at preamble
      rw [induction] at others
      rw [List.flatMap_cons, Section.lines, List.cons_append, of_cons_of_isTag part.isTag]
      ext1
      · rfl
      · simp [preamble, others]

theorem of_lines (parts : Segmentation) : of parts.lines = parts := by
  rcases of_append parts.areText (parts.sections.flatMap Section.lines) with
    ⟨preamble, sections⟩
  rw [of_flatMap_lines] at preamble sections
  ext1
  · simpa [lines] using preamble
  · simpa [lines] using sections

theorem blocks_of (lines : List (List Char)) :
    Block.all (lines.map Line.read) = (of lines).sections.map Section.block ∧
      Block.continuation (lines.map Line.read) =
        (of lines).preamble.flatMap (' ' :: Line.content ·) := by
  induction lines with
  | nil => exact ⟨rfl, rfl⟩
  | cons line lines induction =>
      rcases induction with ⟨blocks, continuation⟩
      by_cases isTag : Line.IsTag line
      · rw [List.map_cons, Line.read_of_isTag isTag, of_cons_of_isTag isTag, Block.all,
          continuation, blocks]
        exact ⟨rfl, rfl⟩
      · rw [List.map_cons, Line.read_of_not_isTag isTag, of_cons_of_not_isTag isTag,
          Block.all, blocks, Block.continuation, continuation]
        exact ⟨rfl, rfl⟩

end Segmentation

def segmentation (source : String) : Segmentation :=
  .of (Line.bodyLines source.toList)

/-- The lines of a comment are cut in exactly one way. Its parameters are what
the `param` sections say, one for each of them and in their order, and its return
type is the first type expression of a `return` or `returns` section that can be
read. The preamble and other sections say nothing. -/
theorem parse_sections (source : String) :
    ((segmentation source).lines = Line.bodyLines source.toList ∧
        ∀ other : Segmentation,
          other.lines = Line.bodyLines source.toList → other = segmentation source) ∧
      (parse source).parameters =
        ((segmentation source).sections.filter (·.word = "param".toList)).map
          (ParamTag.read ·.text) ∧
      (∀ part ∈ (segmentation source).sections,
        match ParamTag.name? part.text with
        | some name => (ParamTag.read part.text).name = String.ofList name
        | none => ParamTag.read part.text = ⟨"", ∅, false⟩) ∧
      (parse source).returnType =
        ((segmentation source).sections.filter
          (·.word ∈ ["return".toList, "returns".toList])).findSome? fun part =>
            (ParamTag.splitType? (trim part.text)).bind fun (expression, _) =>
              (UnionType.parse (String.ofList expression)).toOption := by
  have blocks : Block.all (Line.all source.toList) =
      (segmentation source).sections.map Section.block :=
    (Segmentation.blocks_of _).1
  have isParam : Block.isParam ∘ Section.block =
      fun part => decide (part.word = "param".toList) := by
    funext part
    simp only [Function.comp_apply, Block.isParam, Tag.ofWord?_eq_param_iff, Section.block]
  have isReturn : Block.isReturn ∘ Section.block =
      fun part => decide (part.word ∈ ["return".toList, "returns".toList]) := by
    funext part
    simp only [Function.comp_apply, Block.isReturn, Tag.ofWord?_eq_returns_iff, Section.block]
  refine ⟨⟨Segmentation.lines_of _, ?_⟩, ?_, ?_, ?_⟩
  · intro other same
    rw [← other.of_lines, same, segmentation]
  · rw [parse, parameters_ofLines, blocks, Block.filterMap_parameter?, List.filter_map,
      List.map_map, isParam]
    rfl
  · intro part _
    split
    · rename_i name named
      exact ParamTag.name_read_of_name? named
    · rename_i unnamed
      exact ParamTag.read_of_name?_eq_none unnamed
  · rw [parse, returnType_ofLines, blocks, Block.findSome?_returnType?, List.filter_map,
      isReturn, List.findSome?_map]
    rfl

end Comment

end ParamTypes
