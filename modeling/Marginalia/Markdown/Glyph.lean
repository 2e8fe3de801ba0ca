import Marginalia.Markdown.Source

/-!
The text of a block as it is read for inline markup: its characters with their offsets. Between two
lines stands a line break, which keeps what the source has between the lines: the marks of the
containers and the indentation.
-/

namespace Marginalia.Markdown

/-- A character of a block's text. -/
structure Glyph where
  /-- The character; a line feed for a line break of any kind. -/
  char : Char
  offset : Nat
  /-- For a line break: the characters that end the line. -/
  ending : List Char := []
  /-- For a line break: the marks of containers at the start of the next line. -/
  marks : List Char := []
  /-- For a line break: the indentation of the next line. -/
  indent : List Char := []
  deriving Repr

namespace Glyph

/-- Is it a line break? -/
def isBreak (g : Glyph) : Bool :=
  g.char = '\n'

/-- Characters that follow each other in the source. -/
def ofChars (offset : Nat) : List Char → List Glyph
  | [] => []
  | c :: cs => ⟨c, offset, [], [], []⟩ :: ofChars (offset + 1) cs

/-- The characters. -/
def chars (gs : List Glyph) : List Char :=
  gs.map (·.char)

/-- The text of a code span: a line break becomes a space, and lines keep their indentation. -/
def codeText (gs : List Glyph) : List Char :=
  gs.flatMap fun g => if g.isBreak then ' ' :: g.indent else [g.char]

/-- The text of a tag, without the marks of containers. -/
def tagText (gs : List Glyph) : List Char :=
  gs.flatMap fun g => if g.isBreak then g.ending ++ g.indent else [g.char]

/-- The text as the source has it. -/
def sourceText (gs : List Glyph) : List Char :=
  gs.flatMap fun g => if g.isBreak then g.ending ++ g.marks ++ g.indent else [g.char]

end Glyph

end Marginalia.Markdown
