import Marginalia.Text.Basic

/-!
Passages: the prose and the code that a source file consists of, in turn. Every line keeps what
stands before and after its text, so that the file can be put together again.
-/

namespace Marginalia

namespace Passage

/-- What a passage holds. -/
inductive Kind where
  | prose
  | code
  deriving DecidableEq, Repr

/-- A line of a source file, cut in three. -/
structure Line where
  /-- Indentation and markers before the text. -/
  lead : String := ""
  content : String
  /-- Markers after the text. -/
  trail : String := ""
  deriving DecidableEq, Repr

namespace Line

/-- The line as the file has it. -/
def whole (l : Line) : String :=
  l.lead ++ l.content ++ l.trail

/-- A line that is all text. -/
def plain (cs : List Char) : Line :=
  { content := String.ofList cs }

/-- The line whose text goes from `start` to before `stop`. -/
def cut (cs : List Char) (start stop : Nat) : Line where
  lead := String.ofList (cs.take start)
  content := String.ofList ((cs.take stop).drop start)
  trail := String.ofList (cs.drop stop)

end Line

end Passage

/-- Consecutive lines of a file that are all prose or all code. -/
structure Passage where
  kind : Passage.Kind
  /-- The number of the first line, counted from one. -/
  start : Nat
  lines : List Passage.Line
  /-- Is the passage shown folded? -/
  folded : Bool := false
  deriving DecidableEq, Repr

namespace Passage

/-- How many lines there are. -/
def size (p : Passage) : Nat :=
  p.lines.length

/-- The number of the last line. -/
def stop (p : Passage) : Nat :=
  p.start + p.lines.length - 1

/-- The text of the lines, without markers. -/
def text (p : Passage) : String :=
  Text.join "\n" (p.lines.map (·.content))

/-- Is it prose? -/
def isProse (p : Passage) : Bool :=
  p.kind = .prose

end Passage

end Marginalia
