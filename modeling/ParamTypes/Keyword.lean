/-!
The reserved words of the type language and their spellings.
-/

namespace ParamTypes

inductive Keyword
  | int
  | float
  | string
  | bool
  | literalTrue
  | literalFalse
  | null
  /-- The universal type: anything may be used as it, and it as anything. -/
  | any
  | void
  | array
  | iterable
  | callable
  | object
deriving DecidableEq, Repr

namespace Keyword

def text : Keyword → String
  | int => "int"
  | float => "float"
  | string => "string"
  | bool => "bool"
  | literalTrue => "true"
  | literalFalse => "false"
  | null => "null"
  | any => "any"
  | void => "void"
  | array => "array"
  | iterable => "iterable"
  | callable => "callable"
  | object => "object"

def all : List Keyword := [
  int, float, string, bool, literalTrue, literalFalse, null, any, void, array,
  iterable, callable, object]

/-- Further spellings that are read but never written. -/
def aliases : List (String × Keyword) := [
  ("integer", int), ("double", float), ("boolean", bool), ("mixed", any),
  ("list", array)]

def spellings : List (String × Keyword) :=
  all.map (fun keyword => (keyword.text, keyword)) ++ aliases

/-- The keyword that a word spells; the case of ASCII letters is ignored. -/
def ofWord? (word : String) : Option Keyword :=
  spellings.lookup (String.ofList (word.toList.map Char.toLower))

example : ofWord? "Mixed" = some any := by decide

@[simp] theorem ofWord?_text (keyword : Keyword) : ofWord? keyword.text = some keyword := by
  cases keyword <;> decide

end Keyword

end ParamTypes
