import Marginalia.Markdown.Container
import Marginalia.Markdown.Destination

/-!
Paragraphs: the lines that go on with a paragraph, and how they end up as headings.
-/

namespace Marginalia.Markdown

/-- What a line is to the paragraph above it. -/
inductive Follow where
  /-- It is not part of it. -/
  | stop
  /-- It makes the paragraph a heading. -/
  | underline (level : Nat)
  /-- It goes on with it: the marks of containers, the indentation and the text. -/
  | text (marks indent content : List Char)
  deriving Repr

/-- What a line is to the paragraph above it, which the containers hold. A line may leave containers
out and still go on with the paragraph. -/
def follow (ks : List Container) (l : SourceLine) (next : Option SourceLine) : Follow :=
  let (n, c) := resume ks (Cursor.ofLine l)
  let here := n = ks.length
  let (indent, d) := c.eat 4
  let content := d.eatAll
  let rest : Follow :=
    if content.atEnd then .stop
    else .text (l.text.take c.read) ((l.text.take content.read).drop c.read) content.rest
  if indent < 4 then
    match underlineLevel? d.rest with
    | some level =>
      if here then .underline level
      else if interrupts here false next d.rest then .stop else rest
    | none => if interrupts here false next d.rest then .stop else rest
  else rest

/-- The text of a paragraph after its first line, the level of the heading it turns out to be, and
how many lines it takes. `ending` and `offset` are the end of the line before. -/
def followers (ks : List Container) (ending : List Char) (offset : Nat) :
    List SourceLine → List Glyph × Option Nat × Nat
  | [] => ([], none, 0)
  | l :: ls =>
    match follow ks l ls.head? with
    | .stop => ([], none, 0)
    | .underline level => ([], some level, 1)
    | .text marks indent content =>
      let (gs, level, n) := followers ks l.ending (l.start + l.text.length) ls
      let lineBreak : Glyph := ⟨'\n', offset, ending, marks, indent⟩
      let start := l.start + marks.length + indent.length
      (lineBreak :: (Glyph.ofChars start content ++ gs), level, n + 1)

/-- The lines that may belong to the definition of a label: those before the first one that ends the
paragraph or looks like an underline. -/
def beforeUnderline (ks : List Container) : List SourceLine → List SourceLine
  | [] => []
  | l :: ls =>
    let (_, c) := resume ks (Cursor.ofLine l)
    let (indent, d) := c.eat 4
    if indent < 4 && (underlineLevel? d.rest).isSome then [] else l :: beforeUnderline ks ls

end Marginalia.Markdown
