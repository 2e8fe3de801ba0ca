import Marginalia.Markdown.Reader
import Marginalia.Markdown.Span

/-!
Markdown documents read from text, and the events of a walk through one: every block and every part
that holds others starts and stops, and what stands between comes in order.
-/

namespace Marginalia.Markdown

mutual

/-- Applies a function to the text of a block. -/
def Block.map {α β : Type} (f : α → β) : Block α → Block β
  | .paragraph content => .paragraph (f content)
  | .heading level offset content => .heading level offset (f content)
  | .fenced info text => .fenced info text
  | .indented text => .indented text
  | .html text => .html text
  | .rule => .rule
  | .quote content => .quote (mapBlocks f content)
  | .list first tight items => .list first tight (mapItems f items)
  | .task done => .task done
  | .table columns head rows => .table columns (head.map f) (rows.map (·.map f))
  | .footnote label content => .footnote label (mapBlocks f content)

/-- Applies a function to the text of blocks. -/
def mapBlocks {α β : Type} (f : α → β) : List (Block α) → List (Block β)
  | [] => []
  | b :: bs => b.map f :: mapBlocks f bs

/-- Applies a function to the text of list items. -/
def mapItems {α β : Type} (f : α → β) : List (List (Block α)) → List (List (Block β))
  | [] => []
  | bs :: items => mapBlocks f bs :: mapItems f items

end

/-- A document read from text. -/
def parse (text : String) : List (Block (List Inline)) :=
  let read := readBlocks text.toList
  let scope : Scope := ⟨read.links, read.notes⟩
  mapBlocks (fun leaf =>
    (leaf.box.map Inline.task).toList ++ readSpan scope leaf.loose leaf.glyphs) read.blocks

/-- What starts and stops. -/
inductive Tag where
  | paragraph
  | heading (level offset : Nat)
  | quote
  | fenced (info : String)
  | indented
  | html
  | list (first : Option Nat)
  | item
  | footnote (label : String)
  | table (columns : List Alignment)
  | tableHead
  | tableRow
  | tableCell
  | emphasis
  | strong
  | struck
  | link (kind : LinkKind) (destination title : String) (offset : Nat)
  | image (destination title : String)
  deriving DecidableEq, Repr

/-- A step of a walk through a document. -/
inductive Event where
  | start (tag : Tag)
  | stop (tag : Tag)
  | text (content : String)
  | code (content : String)
  | html (content : String)
  | softBreak
  | hardBreak
  | rule
  | task (done : Bool)
  | note (label : String)
  deriving DecidableEq, Repr

/-- Events between the start and the stop of something. -/
def within (tag : Tag) (events : List Event) : List Event :=
  .start tag :: events ++ [.stop tag]

mutual

/-- The events of a part of inline text. -/
def Inline.events : Inline → List Event
  | .text content => [.text content]
  | .code content => [.code content]
  | .html content => [.html content]
  | .softBreak => [.softBreak]
  | .hardBreak => [.hardBreak]
  | .emphasis content => within .emphasis (inlineEvents content)
  | .strong content => within .strong (inlineEvents content)
  | .struck content => within .struck (inlineEvents content)
  | .link kind destination title offset content =>
    within (.link kind destination title offset) (inlineEvents content)
  | .image destination title content => within (.image destination title) (inlineEvents content)
  | .note label => [.note label]
  | .task done => [.task done]

/-- The events of inline text. -/
def inlineEvents : List Inline → List Event
  | [] => []
  | i :: is => i.events ++ inlineEvents is

end

/-- The events of a row of cells. -/
def rowEvents (tag : Tag) (cells : List (List Inline)) : List Event :=
  within tag (cells.flatMap fun cell => within .tableCell (inlineEvents cell))

mutual

/-- The events of a block. Paragraphs that are set tight do not start and stop. -/
def Block.events (tight : Bool) : Block (List Inline) → List Event
  | .paragraph content =>
    if tight then inlineEvents content else within .paragraph (inlineEvents content)
  | .heading level offset content => within (.heading level offset) (inlineEvents content)
  | .fenced info text => within (.fenced info) [.text text]
  | .indented text => within .indented [.text text]
  | .html text => within .html [.html text]
  | .rule => [.rule]
  | .quote content => within .quote (blockEvents false content)
  | .list first tight items => within (.list first) (itemEvents tight items)
  | .task done => [.task done]
  | .table columns head rows =>
    within (.table columns) (rowEvents .tableHead head ++ rows.flatMap (rowEvents .tableRow))
  | .footnote label content => within (.footnote label) (blockEvents false content)

/-- The events of blocks. -/
def blockEvents (tight : Bool) : List (Block (List Inline)) → List Event
  | [] => []
  | b :: bs => b.events tight ++ blockEvents tight bs

/-- The events of list items. -/
def itemEvents (tight : Bool) : List (List (Block (List Inline))) → List Event
  | [] => []
  | bs :: items => within .item (blockEvents tight bs) ++ itemEvents tight items

end

/-- The events of a text. -/
def events (text : String) : List Event :=
  blockEvents false (parse text)

end Marginalia.Markdown
