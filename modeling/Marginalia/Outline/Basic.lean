import Marginalia.Markdown.Event
import Marginalia.Outline.Anchor
import Marginalia.Outline.Reference
import Marginalia.Passage.Basic

/-!
The outline of a file: the headings in its prose, each with an anchor of its own, and the links in
its prose that lead to other files.
-/

namespace Marginalia

namespace Outline
open Markdown

/-- A heading in the prose of a file. -/
structure Heading where
  level : Nat
  text : String
  /-- The identifier of the heading, which no other heading of the file has. -/
  anchor : String
  /-- The line of the source file, counted from one. -/
  line : Nat
  deriving DecidableEq, Repr

/-- Can a link of this kind name a file? Addresses between angle brackets never do. -/
def namesFile (kind : LinkKind) : Bool :=
  kind = .bracket

/-- The number of the line of a file on which an offset into a passage's text lies. -/
def lineAt (start : Nat) (text : List Char) (offset : Nat) : Nat :=
  start + (text.take offset).count '\n'

/-- A heading that has started but not stopped. -/
structure OpenHeading where
  level : Nat
  line : Nat
  text : String := ""

/-- What has been found so far, last one first. -/
structure Collector where
  headings : List Heading := []
  references : List Reference := []
  anchors : Anchors := {}
  current : Option OpenHeading := none

namespace Collector

/-- Adds text to the heading that has started. -/
def write (c : Collector) (s : String) : Collector :=
  { c with current := c.current.map fun h => { h with text := h.text ++ s } }

/-- Ends the heading that has started and gives it an anchor. -/
def stopHeading (c : Collector) : Collector :=
  match c.current with
  | none => c
  | some h =>
    let text := String.ofList (Text.trim h.text.toList)
    let (anchor, anchors) := c.anchors.take text
    { c with
      headings := ⟨h.level, text, anchor, h.line⟩ :: c.headings, anchors, current := none }

/-- Adds a link, if it names a file. -/
def addLink (c : Collector) (kind : LinkKind) (destination : String) (line : Nat) : Collector :=
  if namesFile kind then
    match parseReference destination line with
    | some r => { c with references := r :: c.references }
    | none => c
  else c

/-- Takes in one event of a passage, given how its offsets become lines. -/
def step (line : Nat → Nat) (c : Collector) : Event → Collector
  | .start (.heading level offset) => { c with current := some { level, line := line offset } }
  | .stop (.heading ..) => c.stopHeading
  | .text content => c.write content
  | .code content => c.write content
  | .start (.link kind destination _ offset) => c.addLink kind destination (line offset)
  | _ => c

/-- Takes in a passage. Every passage starts outside headings. -/
def passage (c : Collector) (p : Passage) : Collector :=
  let text := p.text
  (events text).foldl (step (lineAt p.start text.toList)) { c with current := none }

end Collector

end Outline

/-- Headings and links of a file, in order. -/
structure Outline where
  headings : List Outline.Heading
  references : List Outline.Reference
  deriving DecidableEq, Repr

/-- The outline of a file's passages. -/
def Outline.ofPassages (passages : List Passage) : Outline :=
  let c := (passages.filter (·.isProse)).foldl Collector.passage {}
  ⟨c.headings.reverse, c.references.reverse⟩

end Marginalia
