import ParamTypes.Json.Number
import ParamTypes.Json.Quoted

/-!
The tokens of JSON texts.
-/

namespace ParamTypes.Json

inductive Token
  | beginArray
  | endArray
  | beginObject
  | endObject
  | comma
  | colon
  | null
  | bool (value : Bool)
  | number (literal : List Char)
  | string (value : Option String)
deriving DecidableEq

namespace Token

def isBlank (character : Char) : Bool :=
  [' ', '\t', '\n', '\r'].contains character

def mark? : Char → Option Token
  | '[' => some beginArray
  | ']' => some endArray
  | '\x7b' => some beginObject
  | '\x7d' => some endObject
  | ',' => some comma
  | ':' => some colon
  | _ => none

def word? (word : List Char) : Option Token :=
  [("null".toList, null), ("true".toList, bool true), ("false".toList, bool false)].lookup
    word

def lexeme? (lexeme : List Char) : Option Token :=
  if Number.isLiteral lexeme then some (number lexeme) else word? lexeme

def continues (first character : Char) : Bool :=
  if first.isAlpha then character.isAlpha else Number.isPart character

/-- The tokens of a text, if it consists of tokens and blanks. Words and numbers
reach as far as their characters go. -/
def scan? (text : List Char) : Option (List Token) :=
  match text with
  | [] => some []
  | first :: rest =>
      if isBlank first then
        scan? rest
      else if first == '\x22' then
        match _read : Quoted.elements? rest with
        | some (elements, behind) =>
            (scan? behind).map
              (string ((Quoted.text? elements).map String.ofList) :: ·)
        | none => none
      else
        match mark? first with
        | some token => (scan? rest).map (token :: ·)
        | none => do
            let token ← lexeme? (first :: rest.takeWhile (continues first))
            let tokens ← scan? (rest.dropWhile (continues first))
            return token :: tokens
termination_by text.length
decreasing_by
  · simp
  · have := Quoted.length_lt_of_elements? ‹_›
    simp only [List.length_cons]
    omega
  · simp
  · have := (List.dropWhile_sublist (continues first) (l := rest)).length_le
    simp only [List.length_cons]
    omega

example : scan? "[1, \"a\"]".toList =
    some [beginArray, number "1".toList, comma, string (some "a"), endArray] := by
  decide +kernel

example : scan? "nullx".toList = none := by decide +kernel

end Token

end ParamTypes.Json
