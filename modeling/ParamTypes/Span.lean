/-!
Places in source files.
-/

namespace ParamTypes

/-- A stretch of a file, in bytes, and the line on which it begins. Lines count
from one; zero stands for an unknown line. -/
structure Span where
  file : String
  start : UInt32
  length : UInt32
  line : UInt32
deriving DecidableEq, Repr

namespace Span

def ofBytes (file : String) (start length : UInt32) : Span :=
  ⟨file, start, length, 0⟩

def ofLine (file : String) (line : UInt32) : Span :=
  ⟨file, 0, 0, line⟩

def withLine (span : Span) (line : UInt32) : Span :=
  { span with line }

/-- The file with the line, or with the first byte if the line is unknown. -/
def text (span : Span) : String :=
  if 0 < span.line then
    span.file ++ ":" ++ toString span.line.toNat
  else
    span.file ++ "@" ++ toString span.start.toNat

example : text (ofLine "a.src" 7) = "a.src:7" := by decide

example : text (ofBytes "a.src" 40 2) = "a.src@40" := by decide

end Span

end ParamTypes
