import ParamTypes.Comment.Basic
import ParamTypes.Comment.Line
import ParamTypes.Comment.ParamTag

/-!
Reading documentation comments line by line.

A tag reaches from its line to the next tag or the end of the comment. Text in
front of the first tag and the text of other tags are ignored.
-/

namespace ParamTypes

inductive Tag
  | param
  | returns
deriving DecidableEq

namespace Tag

def ofWord? (word : List Char) : Option Tag :=
  [("param".toList, param), ("return".toList, returns), ("returns".toList, returns)].lookup
    word

example : ofWord? "returns".toList = some .returns := by decide

example : ofWord? "Param".toList = none := by decide

end Tag

namespace Comment

open Text

/-- Take up a tag with its whole text. Every parameter tag gives an entry;
the first return type that can be read stays. -/
def record (comment : Comment) (tag : Tag) (text : List Char) : Comment :=
  match tag with
  | .param => comment.add (ParamTag.read text)
  | .returns =>
      match comment.returnType, ParamTag.readType? text with
      | none, some type => comment.setReturnType type
      | _, _ => comment

/-- A comment of which some lines have been read: what the finished tags say,
and the tag whose text may go on. -/
structure Scan where
  comment : Comment
  openTag : Option (Tag × List Char)

namespace Scan

def start : Scan :=
  ⟨∅, none⟩

def close (scan : Scan) : Comment :=
  match scan.openTag with
  | some (tag, text) => scan.comment.record tag text
  | none => scan.comment

/-- Read one more line. A tag closes the one before; text goes on with the open
tag behind a space. -/
def step (scan : Scan) : Line → Scan
  | .tag word rest => ⟨scan.close, (Tag.ofWord? word).map (·, rest)⟩
  | .text content =>
      { scan with
        openTag := scan.openTag.map fun (tag, text) => (tag, text ++ ' ' :: content) }

end Scan

def ofLines (lines : List Line) : Comment :=
  (lines.foldl Scan.step .start).close

def parse (source : String) : Comment :=
  ofLines (Line.all source.toList)

example : (parse "/** @param int $a\n * @returns\n *   bool */").parameters =
    [⟨"a", .ofKeyword .int, false⟩] := by
  decide +kernel

example : (parse "/** @param int $a\n * @returns\n *   bool */").returnType =
    some (.ofKeyword .bool) := by
  decide +kernel

end Comment

end ParamTypes
