import ParamTypes.Comment.DocParameter
import ParamTypes.TypeExpr.Members

/-!
The text behind a tag: a type expression, and for a parameter its name.

A type may be given bare or in braces, the name with markers of optional,
variadic, quoted and by-reference parameters around it. What follows the name
is a description.
-/

namespace ParamTypes.ParamTag

open Text

/-! ## Type expressions -/

/-- The text before the brace that closes `depth` braces and the one around
them, and the text behind it. -/
def closeBrace? : (depth : Nat) → (text : List Char) → Option (List Char × List Char)
  | _, [] => none
  | depth, character :: rest =>
      if character == '\x7d' && depth == 0 then
        some ([], rest)
      else
        let inner :=
          if character == '\x7b' then depth + 1
          else if character == '\x7d' then depth - 1
          else depth
        (closeBrace? inner rest).map fun (raw, behind) => (character :: raw, behind)

/-- The text before the first blank outside `depth` brackets, and the rest. A
bracket that closes nothing is ignored. -/
def bareType : (depth : Nat) → (text : List Char) → List Char × List Char
  | _, [] => ([], [])
  | depth, character :: rest =>
      if isBlank character && depth == 0 then
        ([], character :: rest)
      else
        let inner :=
          if TypeExpr.opensBracket character then depth + 1
          else if TypeExpr.closesBracket character then depth - 1
          else depth
        let (type, behind) := bareType inner rest
        (character :: type, behind)

/-- The type expression at the beginning of a text, and the rest. There is none
in an empty text or behind a brace that is not closed. -/
def splitType? : List Char → Option (List Char × List Char)
  | [] => none
  | '\x7b' :: rest => (closeBrace? 0 rest).map fun (raw, behind) => (trim raw, behind)
  | text => some (bareType 0 text)

example :
    splitType? "array<int, A> $x".toList = some ("array<int, A>".toList, " $x".toList) := by
  decide

def readType? (text : List Char) : Option UnionType :=
  (splitType? (trim text)).bind fun (type, _) =>
    (UnionType.parse (String.ofList type)).toOption

/-! ## Names -/

def isNameToken (word : List Char) : Bool :=
  let named := word.dropWhile (· == '&')
  named.head? == some '$' || (stripStart? ['.', '.', '.'] named).isSome

/-- A word without the brackets of an optional parameter, the default value in
them, and the backticks around the name. -/
def unwrapName (word : List Char) : List Char :=
  let name := (word.dropWhile (· == '[')).takeWhile (· ≠ '=')
  let closed := dropEndWhile (· == ']') name
  dropEndWhile (· == '\x60') (closed.dropWhile (· == '\x60'))

def readName (word : List Char) : List Char × Bool :=
  let name := (unwrapName word).dropWhile (· == '&')
  let bare (marked : List Char) :=
    (marked.dropWhile (· == '&')).dropWhile (· == '$')
  match stripStart? ['.', '.', '.'] name with
  | some marked => (bare marked, true)
  | none => (bare name, false)

example : readName "[&...$rest=[]]".toList = ("rest".toList, true) := by decide

/-! ## Parameters -/

def readDots (type : List Char) : List Char × Bool :=
  match stripEnd? ['.', '.', '.'] type with
  | some marked => (marked, true)
  | none => (type, false)

/-- The parameter of a name, with or without a type expression. A type that
cannot be read is left open. -/
def describe (type? : Option (List Char)) (word : List Char) : DocParameter :=
  let dots := type?.map readDots
  let (name, isVariadic) := readName word
  if isIdentifier name then
    { name := String.ofList name
      type :=
        (dots.bind fun (type, _) =>
          (UnionType.parse (String.ofList type)).toOption).getD ∅
      isVariadic := isVariadic || dots.any (·.2) }
  else
    .placeholder

def read (text : List Char) : DocParameter :=
  match splitType? (trim text) with
  | none => .placeholder
  | some (first, behind) =>
      if isNameToken first then
        describe none first
      else
        describe (some first) (firstWord (trimStart behind))

example : read " \x7b int | null \x7d [$count=1] how many".toList =
    ⟨"count", .ofList [.keyword .int, .keyword .null], false⟩ := by
  decide +kernel

example : read " string... $names".toList = ⟨"names", .ofKeyword .string, true⟩ := by
  decide +kernel

example : read " int how-many".toList = .placeholder := by decide +kernel

end ParamTypes.ParamTag
