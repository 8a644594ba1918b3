import ParamTypes.Text.Lines

/-!
The lines of a documentation comment.

Delimiters, gutters and blanks at the ends of a line carry no meaning. A line
holds a tag if it begins with an at sign, behind any sections in backticks.
-/

namespace ParamTypes

open Text

/-- A line without its gutter: the word of its tag and what follows the word,
or plain text. -/
inductive Line
  | tag (word rest : List Char)
  | text (content : List Char)
deriving DecidableEq

namespace Line

/-! ## The content of a line -/

/-- A comment without its delimiters; either may be missing. -/
def body (comment : List Char) : List Char :=
  let trimmed := trim comment
  let opened := (stripStart? ['/', '*', '*'] trimmed).getD trimmed
  (stripEnd? ['*', '/'] opened).getD opened

example : body "/** text */".toList = " text ".toList := by decide

/-- A line without its gutter of stars and the blanks around. -/
def content (line : List Char) : List Char :=
  trim ((trim line).dropWhile (· == '*'))

example : content " ** @return int\r".toList = "@return int".toList := by decide

/-! ## Sections in backticks -/

/-- What follows the blanks and the closed sections in backticks at the
beginning of a text. -/
def skipQuoted (text : List Char) : List Char :=
  match _start : trimStart text with
  | '\x60' :: rest =>
      match _close : rest.dropWhile (· ≠ '\x60') with
      | _ :: after => skipQuoted after
      | [] => '\x60' :: rest
  | unquoted => unquoted
termination_by text.length
decreasing_by
  have shorter := length_trimStart_le text
  have atClose := (List.dropWhile_sublist (· ≠ '\x60') (l := rest)).length_le
  simp only [‹trimStart text = _›, ‹List.dropWhile _ rest = _›,
    List.length_cons] at shorter atClose
  omega

example : skipQuoted "\x60@a\x60 \x60b\x60 @param".toList = "@param".toList := by
  cbv

example : skipQuoted " \x60open".toList = "\x60open".toList := by cbv

/-! ## Lines -/

def read (line : List Char) : Line :=
  match skipQuoted (content line) with
  | '@' :: marked => .tag (firstWord marked) (afterFirstWord marked)
  | _ => .text (content line)

example : read " * @param int $count".toList = .tag "param".toList " int $count".toList := by
  cbv

def all (comment : List Char) : List Line :=
  (lines (body comment)).map read

end Line

end ParamTypes
