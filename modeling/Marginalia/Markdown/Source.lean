import Marginalia.Text.Basic

/-!
The source of a Markdown document: lines with the offsets at which they start, and a cursor that
eats indentation column by column, where a tab runs to the next multiple of four.
-/

namespace Marginalia.Markdown

/-- A line of the source. -/
structure SourceLine where
  /-- The offset of its first character. -/
  start : Nat
  text : List Char
  /-- The characters that end the line; there are none at the end of the source. -/
  ending : List Char
  deriving Repr

/-- The lines of the source from an offset on. A line feed, a carriage return or both end a line. -/
def sourceLinesFrom (offset : Nat) : List Char → List SourceLine
  | [] => []
  | '\n' :: cs => ⟨offset, [], ['\n']⟩ :: sourceLinesFrom (offset + 1) cs
  | '\r' :: '\n' :: cs => ⟨offset, [], ['\r', '\n']⟩ :: sourceLinesFrom (offset + 2) cs
  | '\r' :: cs => ⟨offset, [], ['\r']⟩ :: sourceLinesFrom (offset + 1) cs
  | c :: cs =>
    match sourceLinesFrom (offset + 1) cs with
    | [] => [⟨offset, [c], []⟩]
    | l :: ls => { l with start := offset, text := c :: l.text } :: ls

/-- The lines of a source. -/
def sourceLines (cs : List Char) : List SourceLine :=
  sourceLinesFrom 0 cs

/-- The line end as it is kept in code: carriage return and line feed become a line feed. -/
def SourceLine.codeEnding (l : SourceLine) : List Char :=
  if l.ending = ['\r', '\n'] then ['\n'] else l.ending

/-- Blanks inside a line: space, tab, line tabulation and form feed. -/
def isSpace (c : Char) : Bool :=
  c = ' ' || c = '\t' || c.toNat = 0xB || c.toNat = 0xC

/-- Is the rest of a line blank? -/
def isBlankLine (cs : List Char) : Bool :=
  cs.all isSpace

/-- A place in a line. -/
structure Cursor where
  /-- What follows in the line. -/
  rest : List Char
  /-- How many characters of the line are read. -/
  read : Nat := 0
  /-- How many columns are read since the last tab stop. -/
  column : Nat := 0
  /-- How many columns of a tab that is read are still to be eaten. -/
  pending : Nat := 0
  deriving Repr

namespace Cursor

/-- The cursor at the start of a line. -/
def ofLine (l : SourceLine) : Cursor :=
  { rest := l.text }

/-- Eats up to `n` columns of indentation and says how many there were. -/
def eat : (n : Nat) → Cursor → Nat × Cursor
  | 0, c => (0, c)
  | n + 1, c =>
    if 0 < c.pending then
      let (k, c) := eat n { c with pending := c.pending - 1 }
      (k + 1, c)
    else match c.rest with
      | ' ' :: rest =>
        let (k, c) := eat n { c with rest, read := c.read + 1, column := c.column + 1 }
        (k + 1, c)
      | '\t' :: rest =>
        let width := 4 - c.column % 4
        let (k, c) := eat n { rest, read := c.read + 1, column := 0, pending := width - 1 }
        (k + 1, c)
      | _ => (0, c)

/-- Eats all spaces and tabs. -/
def eatAll (c : Cursor) : Cursor :=
  let blanks := c.rest.takeWhile fun d => d = ' ' || d = '\t'
  { c with rest := c.rest.drop blanks.length, read := c.read + blanks.length, pending := 0 }

/-- Passes over `n` characters. -/
def skip (c : Cursor) (n : Nat) : Cursor :=
  { c with rest := c.rest.drop n, read := c.read + n, column := c.column + n }

/-- Is the cursor at the end of the line? -/
def atEnd (c : Cursor) : Bool :=
  c.rest.isEmpty

/-- The rest of the line, with the columns that a tab still owes as spaces. -/
def remainder (c : Cursor) : List Char :=
  List.replicate c.pending ' ' ++ c.rest

end Cursor

end Marginalia.Markdown
