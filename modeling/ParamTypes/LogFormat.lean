import ParamTypes.Text.Trim

/-!
The formats of log output.
-/

namespace ParamTypes

open Text

inductive LogFormat
  | text
  | tree
  | json
deriving DecidableEq, Repr

namespace LogFormat

/-- The format that a setting names; any other setting means plain text. Blanks
around and the case of letters are ignored. The names are ASCII words, and no
other letter has one of theirs in lower case. -/
def ofText (setting : String) : LogFormat :=
  let word := String.ofList ((trim setting.toList).map Char.toLower)
  if word = "tree" then tree
  else if word = "json" then json
  else text

example : ofText " JSON\n" = json := by decide

example : ofText "yaml" = text := by decide

end LogFormat

end ParamTypes
