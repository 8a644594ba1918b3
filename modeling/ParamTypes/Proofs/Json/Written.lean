import ParamTypes.Proofs.Json.Number
import ParamTypes.Proofs.Json.Quoted
import ParamTypes.Proofs.Json.Tokens

/-!
JSON texts as they are written: literals, arrays and objects, with any blanks between
the tokens. Every such text is read as the value that it writes (`parse?_of_writes`).
-/

namespace ParamTypes.Json

open Text

/-! ## Written values -/

def AreBlanks (text : List Char) : Prop :=
  ∀ character ∈ text, character ∈ [' ', '\t', '\n', '\r']

structure Item where
  before : List Char
  text : List Char
  after : List Char
  value : Json
  blanksBefore : AreBlanks before
  blanksAfter : AreBlanks after

def Item.padded (item : Item) : List Char :=
  item.before ++ (item.text ++ item.after)

structure Member where
  before : List Char
  literal : List Char
  codes : List Nat
  key : Option String
  after : List Char
  item : Item
  blanksBefore : AreBlanks before
  blanksAfter : AreBlanks after
  spells : Quoted.Spells literal codes
  makesUp : Quoted.MakesUp codes key

def Member.text (member : Member) : List Char :=
  member.before ++ '\x22' :: (member.literal ++ '\x22' ::
    (member.after ++ ':' :: member.item.padded))

/-- A text without blanks around it writes a value. -/
inductive Writes : (text : List Char) → (value : Json) → Prop
  | null : Writes "null".toList .null
  | literalTrue : Writes "true".toList (.bool true)
  | literalFalse : Writes "false".toList (.bool false)
  | number (literal : Number.Literal) : Writes literal.text (.number literal.text)
  | string {literal : List Char} {codes : List Nat} {content : Option String}
      (spells : Quoted.Spells literal codes) (makesUp : Quoted.MakesUp codes content) :
      Writes ('\x22' :: (literal ++ ['\x22'])) (.string content)
  | emptyArray {blanks : List Char} (areBlanks : AreBlanks blanks) :
      Writes ('[' :: (blanks ++ [']'])) (.array [])
  | array {items : List Item} (nonempty : items ≠ [])
      (writes : ∀ item ∈ items, Writes item.text item.value) :
      Writes ('[' :: ([','].intercalate (items.map Item.padded) ++ [']']))
        (.array (items.map Item.value))
  | emptyObject {blanks : List Char} (areBlanks : AreBlanks blanks) :
      Writes ('\x7b' :: (blanks ++ ['\x7d'])) (.object [])
  | object {members : List Member} (nonempty : members ≠ [])
      (writes : ∀ member ∈ members, Writes member.item.text member.item.value) :
      Writes ('\x7b' :: ([','].intercalate (members.map Member.text) ++ ['\x7d']))
        (.object (members.map fun member => (member.key, member.item.value)))

/-! ## Plain forms -/

def Item.bare (text : List Char) (value : Json) : Item where
  before := []
  text := text
  after := []
  value := value
  blanksBefore := List.forall_mem_nil _
  blanksAfter := List.forall_mem_nil _

def Member.labelled (key : String) (item : Item) : Member where
  before := []
  literal := key.toList.flatMap Quoted.spelling
  codes := key.toList.flatMap Quoted.codeUnits
  key := some (String.ofList key.toList)
  after := []
  item := item
  blanksBefore := List.forall_mem_nil _
  blanksAfter := List.forall_mem_nil _
  spells := Quoted.spells_spelling key.toList
  makesUp := .text rfl

theorem Member.key_labelled (key : String) (item : Item) : (labelled key item).key = some key :=
  congrArg some String.ofList_toList

def quoted (text : String) : List Char :=
  '\x22' :: (text.toList.flatMap Quoted.spelling ++ ['\x22'])

theorem writes_quoted (text : String) : Writes (quoted text) (.string (some text)) := by
  have writes := Writes.string (Quoted.spells_spelling text.toList) (.text rfl)
  rwa [String.ofList_toList] at writes

/-! ## Scanning -/

/-- Whether a text begins with a blank or a mark that ends a number or word. -/
def Delimits (text : List Char) : Prop :=
  ∀ next ∈ text.head?, next ∈ [' ', '\t', '\n', '\r', ',', ':', ']', '\x7d']

/-- Whether a text is scanned as some tokens, as long as no number or word goes on behind
it. -/
def ScansAs (text : List Char) (tokens : List Token) : Prop :=
  ∀ rest, Delimits rest → Token.scan? (text ++ rest) = (Token.scan? rest).map (tokens ++ ·)

theorem delimits_append {text rest : List Char} (begins : Delimits text) (ends : Delimits rest) :
    Delimits (text ++ rest) := by
  cases text with
  | nil => exact ends
  | cons first text => exact begins

theorem delimits_cons {mark : Char}
    (isMark : mark ∈ [' ', '\t', '\n', '\r', ',', ':', ']', '\x7d']) (rest : List Char) :
    Delimits (mark :: rest) := by
  intro next begins
  rw [← Option.mem_some_iff.mp begins]
  exact isMark

theorem AreBlanks.delimits {blanks : List Char} (areBlanks : AreBlanks blanks) :
    Delimits blanks := by
  intro next begins
  have isBlank := areBlanks next (List.mem_of_mem_head? begins)
  exact List.mem_append_left [',', ':', ']', '\x7d'] isBlank

theorem scansAs_nil : ScansAs [] [] :=
  fun _ _ => (Option.map_id' (x := Token.scan? _)).symm

theorem ScansAs.append {text rest : List Char} {tokens others : List Token}
    (scans : ScansAs text tokens) (later : ScansAs rest others) (delimits : Delimits rest) :
    ScansAs (text ++ rest) (tokens ++ others) := by
  intro behind ends
  rw [List.append_assoc, scans _ (delimits_append delimits ends), later _ ends, Option.map_map]
  congr 1
  funext more
  exact (List.append_assoc _ _ _).symm

theorem ScansAs.blanks_append {blanks text : List Char} {tokens : List Token}
    (areBlanks : AreBlanks blanks) (scans : ScansAs text tokens) :
    ScansAs (blanks ++ text) tokens := by
  induction blanks with
  | nil => exact scans
  | cons blank blanks induction =>
      rw [AreBlanks, List.forall_mem_cons] at areBlanks
      intro rest ends
      have isBlank : Token.isBlank blank = true := List.contains_iff_mem.mpr areBlanks.1
      rw [List.cons_append, List.cons_append, Token.scan?, if_pos isBlank]
      exact induction areBlanks.2 rest ends

theorem scansAs_blanks {blanks : List Char} (areBlanks : AreBlanks blanks) :
    ScansAs blanks [] := by
  have scans := ScansAs.blanks_append areBlanks scansAs_nil
  rwa [List.append_nil] at scans

theorem ScansAs.cons_mark {mark : Char} {token : Token} {text : List Char}
    {tokens : List Token} (isMark : Token.mark? mark = some token)
    (scans : ScansAs text tokens) : ScansAs (mark :: text) (token :: tokens) := by
  have visible : Token.isBlank mark = false ∧ (mark == '\x22') = false := by
    unfold Token.mark? at isMark
    split at isMark <;> first | exact ⟨rfl, rfl⟩ | cases isMark
  intro rest ends
  rw [List.cons_append, Token.scan?, visible.1, visible.2]
  simp only [Bool.false_eq_true, if_false, isMark, scans rest ends, Option.map_map]
  rfl

theorem scan?_quote {text behind : List Char} {elements : List Quoted.Element}
    (read : Quoted.elements? text = some (elements, behind)) :
    Token.scan? ('\x22' :: text) =
      (Token.scan? behind).map
        (.string ((Quoted.text? elements).map String.ofList) :: ·) := by
  have noBlank : Token.isBlank '\x22' = false := rfl
  rw [Token.scan?, noBlank]
  simp only [Bool.false_eq_true, if_false, beq_self_eq_true, if_true]
  split
  · rename_i found isFound
    rw [read] at isFound
    cases isFound
    rfl
  · rename_i nothing
    rw [read] at nothing
    cases nothing

theorem ScansAs.quoted_append {literal : List Char} {codes : List Nat}
    {content : Option String} (spells : Quoted.Spells literal codes)
    (makesUp : Quoted.MakesUp codes content) {text : List Char} {tokens : List Token}
    (scans : ScansAs text tokens) :
    ScansAs ('\x22' :: (literal ++ '\x22' :: text)) (.string content :: tokens) := by
  intro rest ends
  rcases Quoted.text?_of_spells spells makesUp (text ++ rest) with ⟨elements, read, isContent⟩
  have parts : '\x22' :: (literal ++ '\x22' :: text) ++ rest =
      '\x22' :: (literal ++ '\x22' :: (text ++ rest)) := by
    simp
  rw [parts, scan?_quote read, isContent, scans rest ends, Option.map_map]
  rfl

theorem continues_of_delimits {rest : List Char} (ends : Delimits rest) (first : Char) :
    ∀ next ∈ rest.head?, Token.continues first next = false := by
  intro next begins
  rw [Token.continues]
  split
  · exact eq_false_of_mem (by decide) (ends next begins)
  · exact eq_false_of_mem (by decide) (ends next begins)

theorem scansAs_lexeme {first : Char} {more : List Char} {token : Token}
    (isLexeme : Token.lexeme? (first :: more) = some token)
    (begins : first.isAlpha = true ∨ Number.isPart first = true)
    (goesOn : ∀ character ∈ more, Token.continues first character = true) :
    ScansAs (first :: more) [token] := by
  intro rest ends
  have stops := continues_of_delimits ends first
  have apart (mark : Char) (isMark : mark ∈ [' ', '\t', '\n', '\r', '\x22', '[', ']', '\x7b',
      '\x7d', ',', ':']) : first ≠ mark := by
    rintro rfl
    have noAlpha : first.isAlpha = false := eq_false_of_mem (by decide) isMark
    have noPart : Number.isPart first = false := eq_false_of_mem (by decide) isMark
    rw [noAlpha, noPart] at begins
    simp at begins
  have noBlank : Token.isBlank first = false := by
    rw [Token.isBlank, ← Bool.not_eq_true, List.contains_iff_mem]
    intro member
    have blanks : [' ', '\t', '\n', '\r'] ⊆ [' ', '\t', '\n', '\r', '\x22', '[', ']', '\x7b',
        '\x7d', ',', ':'] := by decide
    exact apart first (blanks member) rfl
  have noQuote : (first == '\x22') = false := beq_false_of_ne (apart _ (by decide))
  have noMark : Token.mark? first = none := by
    unfold Token.mark?
    split <;> first | rfl | exact absurd rfl (apart _ (by decide))
  rw [List.cons_append, Token.scan?, noBlank, noQuote, takeWhile_append_of_head goesOn stops,
    dropWhile_append_of_head goesOn stops]
  simp only [Bool.false_eq_true, if_false, noMark, isLexeme]
  cases Token.scan? rest <;> rfl

theorem scansAs_number (literal : Number.Literal) :
    ScansAs literal.text [.number literal.text] := by
  have isPart := literal.isPart_of_mem_text
  have isLexeme : Token.lexeme? literal.text = some (.number literal.text) :=
    if_pos literal.isLiteral_text
  rcases literal.exists_text_eq_cons with ⟨first, more, parts, noAlpha⟩
  rw [parts, List.forall_mem_cons] at isPart
  rw [parts] at isLexeme ⊢
  apply scansAs_lexeme isLexeme (.inr isPart.1)
  intro character member
  rw [Token.continues, noAlpha]
  exact isPart.2 character member

/-! ## Values -/

theorem Item.scansAs_padded {item : Item} (scans : ScansAs item.text (tokens item.value)) :
    ScansAs item.padded (tokens item.value) := by
  have padded := scans.append (scansAs_blanks item.blanksAfter) item.blanksAfter.delimits
  rw [List.append_nil] at padded
  exact padded.blanks_append item.blanksBefore

theorem scansAs_items {items : List Item} (nonempty : items ≠ [])
    (scans : ∀ item ∈ items, ScansAs item.text (tokens item.value)) :
    ScansAs ([','].intercalate (items.map Item.padded)) (itemTokens (items.map Item.value)) := by
  induction items with
  | nil => contradiction
  | cons item items induction =>
      rw [List.forall_mem_cons] at scans
      have padded := item.scansAs_padded scans.1
      cases items with
      | nil =>
          rw [List.map_singleton, List.map_singleton, List.intercalate_singleton, itemTokens]
          exact padded
      | cons next others =>
          have later := induction (List.cons_ne_nil _ _) scans.2
          rw [List.map_cons, List.map_cons, List.intercalate_cons_cons, List.map_cons,
            List.map_cons, itemTokens, List.append_assoc]
          exact padded.append (later.cons_mark rfl) (delimits_cons (by decide) _)

theorem Member.scansAs_text {member : Member}
    (scans : ScansAs member.item.text (tokens member.item.value)) :
    ScansAs member.text (.string member.key :: .colon :: tokens member.item.value) := by
  have value := (member.item.scansAs_padded scans).cons_mark (rfl : Token.mark? ':' = _)
  have key := (value.blanks_append member.blanksAfter).quoted_append member.spells member.makesUp
  exact key.blanks_append member.blanksBefore

theorem scansAs_members {members : List Member} (nonempty : members ≠ [])
    (scans : ∀ member ∈ members, ScansAs member.item.text (tokens member.item.value)) :
    ScansAs ([','].intercalate (members.map Member.text))
      (memberTokens (members.map fun member => (member.key, member.item.value))) := by
  induction members with
  | nil => contradiction
  | cons member members induction =>
      rw [List.forall_mem_cons] at scans
      have written := member.scansAs_text scans.1
      cases members with
      | nil =>
          rw [List.map_singleton, List.map_singleton, List.intercalate_singleton, memberTokens]
          exact written
      | cons next others =>
          have later := induction (List.cons_ne_nil _ _) scans.2
          rw [List.map_cons, List.map_cons, List.intercalate_cons_cons, List.map_cons,
            List.map_cons, memberTokens, List.append_assoc]
          exact written.append (later.cons_mark rfl) (delimits_cons (by decide) _)

theorem scansAs_of_writes {text : List Char} {value : Json} (writes : Writes text value) :
    ScansAs text (tokens value) := by
  induction writes with
  | null | literalTrue | literalFalse =>
      rw [tokens]
      exact scansAs_lexeme (by decide) (.inl rfl) (List.all_eq_true.mp rfl)
  | number literal =>
      rw [tokens]
      exact scansAs_number literal
  | string spells makesUp =>
      rw [tokens]
      exact ScansAs.quoted_append spells makesUp scansAs_nil
  | emptyArray areBlanks =>
      rw [tokens]
      exact .cons_mark rfl (.blanks_append areBlanks (.cons_mark rfl scansAs_nil))
  | array nonempty writes induction =>
      rw [tokens]
      exact .cons_mark rfl ((scansAs_items nonempty induction).append
        (.cons_mark rfl scansAs_nil) (delimits_cons (by decide) []))
  | emptyObject areBlanks =>
      rw [tokens]
      exact .cons_mark rfl (.blanks_append areBlanks (.cons_mark rfl scansAs_nil))
  | object nonempty writes induction =>
      rw [tokens]
      exact .cons_mark rfl ((scansAs_members nonempty induction).append
        (.cons_mark rfl scansAs_nil) (delimits_cons (by decide) []))

theorem parse?_of_writes {item : Item} (writes : Writes item.text item.value) :
    parse? (String.ofList item.padded) = some item.value := by
  have nothing : Delimits [] := by
    intro next begins
    cases begins
  have scanned := item.scansAs_padded (scansAs_of_writes writes) [] nothing
  have noTokens : Token.scan? [] = some [] := by
    rw [Token.scan?]
  rw [List.append_nil, noTokens, Option.map_some, List.append_nil] at scanned
  rw [parse?, String.toList_ofList, scanned, Option.bind_some, ofTokens?_tokens]

end ParamTypes.Json
