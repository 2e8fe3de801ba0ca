/-!
Markdown documents as trees: blocks, and the inline text inside them. A block is given over what its
text is: first the source of the text, later its inline tree.
-/

namespace Marginalia.Markdown

/-- How a link is written. -/
inductive LinkKind where
  /-- In brackets, with a destination or a label. -/
  | bracket
  /-- An address between angle brackets. -/
  | address
  /-- A mail address between angle brackets. -/
  | mail
  deriving DecidableEq, Repr

/-- Text inside a block. Links keep the offset at which they start. -/
inductive Inline where
  | text (content : String)
  | code (content : String)
  | html (content : String)
  | softBreak
  | hardBreak
  | emphasis (content : List Inline)
  | strong (content : List Inline)
  | struck (content : List Inline)
  | link (kind : LinkKind) (destination title : String) (offset : Nat) (content : List Inline)
  | image (destination title : String) (content : List Inline)
  /-- A reference to a footnote. -/
  | note (label : String)
  /-- The box of a task, in front of the first paragraph of its list item. -/
  | task (done : Bool)
  deriving Inhabited

/-- How the cells of a column are set. -/
inductive Alignment where
  | none
  | left
  | center
  | right
  deriving DecidableEq, Repr

/-- A block of a document. Headings keep the offset at which they start. -/
inductive Block (α : Type) where
  | paragraph (content : α)
  | heading (level offset : Nat) (content : α)
  /-- Code between fences, with the words behind the opening fence. -/
  | fenced (info text : String)
  /-- Code by indentation. -/
  | indented (text : String)
  | html (text : String)
  | rule
  | quote (content : List (Block α))
  /-- A list: its first number, if it counts, and whether its paragraphs are set tight. -/
  | list (first : Option Nat) (tight : Bool) (items : List (List (Block α)))
  /-- The box of a task on a line of its own, at the start of a list item. -/
  | task (done : Bool)
  | table (columns : List Alignment) (head : List α) (rows : List (List α))
  | footnote (label : String) (content : List (Block α))

end Marginalia.Markdown
