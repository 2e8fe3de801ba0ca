import Marginalia.Markdown.HtmlBlock
import Marginalia.Markdown.Marker
import Marginalia.Markdown.Tree

/-!
Containers: blocks that hold other blocks. Every line has to go on with the containers that are
open, outermost first; a line that does not is outside of the ones that are left.
-/

namespace Marginalia.Markdown

/-- An open container. -/
inductive Container where
  | quote
  | list (delimiter : Char) (first : Nat) (loose : Bool)
  /-- A list item, with the indentation of its text. -/
  | item (indent : Nat)
  | footnote (label : String)
  deriving Repr

/-- Eats the mark of a quotation and one column behind it. -/
def quoteMark? (c : Cursor) : Option Cursor :=
  match c.rest with
  | '>' :: _ => some ((c.skip 1).eat 1).2
  | _ => none

/-- Eats an indentation that a blank line need not have. -/
def indentation? (n : Nat) (c : Cursor) : Option Cursor :=
  let (k, d) := c.eat n
  if k = n || d.atEnd then some d else none

/-- Goes on with a container, if the line does. -/
def Container.continue? (k : Container) (c : Cursor) : Option Cursor :=
  match k with
  | .quote => quoteMark? (c.eat 3).2
  | .list .. => some c
  | .item indent => indentation? indent c
  | .footnote _ => indentation? 4 c

/-- Goes on with as many of the containers as the line does, outermost first: how many, and what is
left of the line. -/
def resume : List Container → Cursor → Nat × Cursor
  | [], c => (0, c)
  | k :: ks, c =>
    match k.continue? c with
    | none => (0, c)
    | some d =>
      let (n, e) := resume ks d
      (n + 1, e)

/-- Goes on with all containers. -/
def resumeAll? (ks : List Container) (l : SourceLine) : Option Cursor :=
  let (n, c) := resume ks (Cursor.ofLine l)
  if n = ks.length then some c else none

/-- Does a list item start at the text? Only a blank or the end of the line may follow the mark.
Gives the delimiter, the number and what follows the mark. -/
def itemStart? (cs : List Char) : Option (Char × Nat × List Char) :=
  match itemMark? cs with
  | none => none
  | some (delimiter, number, size) =>
    match cs.drop size with
    | [] => some (delimiter, number, [])
    | c :: rest => if c = ' ' || c = '\t' then some (delimiter, number, c :: rest) else none

/-- Does a list item that starts at the text end a paragraph of the same container? It must be a
bullet or number one, and not be empty and followed by a blank line or nothing. -/
def itemInterrupts (next : Option SourceLine) (delimiter : Char) (number : Nat)
    (rest : List Char) : Bool :=
  (isBullet delimiter || number = 1) &&
    !(isBlankLine rest && next.all fun l => isBlankLine l.text)

/-- Does the line end a paragraph above it? `here` says that it goes on with all containers, and
`always` that any list item ends what is above it. `next` is the line after it. -/
def interrupts (here always : Bool) (next : Option SourceLine) (cs : List Char) : Bool :=
  cs.isEmpty || isThematicBreak cs || (headingLevel? cs).isSome || (fence? cs).isSome ||
    cs.head? = some '>' ||
    (match itemStart? cs with
      | some (delimiter, number, rest) =>
        !here || always || itemInterrupts next delimiter number rest
      | none => false) ||
    (strongHtmlEnd? cs).isSome || (noteMark? cs).isSome

end Marginalia.Markdown
