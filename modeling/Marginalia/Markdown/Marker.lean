import Marginalia.Markdown.Label

/-!
Lines that start a block: thematic breaks, headings, code fences, list items and footnotes.
-/

namespace Marginalia.Markdown

/-- How often the text repeats `c` at its start. -/
def runLength (c : Char) (cs : List Char) : Nat :=
  (cs.takeWhile (· = c)).length

/-- A thematic break: three or more stars, dashes or underscores, and nothing else but blanks. -/
def isThematicBreak (cs : List Char) : Bool :=
  match cs with
  | c :: _ =>
    (c = '*' || c = '-' || c = '_') && cs.all (fun d => d = c || d = ' ' || d = '\t') &&
      decide (3 ≤ cs.count c)
  | [] => false

/-- The level of a heading that starts with number signs. -/
def headingLevel? (cs : List Char) : Option Nat :=
  let level := runLength '#' cs
  if 1 ≤ level && level ≤ 6 && ((cs.drop level).head?.all isWhite) then some level else none

/-- The level that a line under a paragraph gives it as a heading. -/
def underlineLevel? (cs : List Char) : Option Nat :=
  match cs with
  | c :: _ =>
    if (c = '=' || c = '-') && isBlankLine (cs.drop (runLength c cs)) then
      some (if c = '=' then 1 else 2)
    else none
  | [] => none

/-- A run of characters that opens a code block. -/
structure Fence where
  mark : Char
  size : Nat
  deriving Repr

/-- The fence that a line opens with. No backtick may follow a fence of backticks. -/
def fence? (cs : List Char) : Option Fence :=
  match cs with
  | c :: _ =>
    let size := runLength c cs
    if (c = '`' || c = '~') && 3 ≤ size && !(c = '`' && (cs.drop size).contains '`') then
      some ⟨c, size⟩
    else none
  | [] => none

/-- Does the line close the code block? -/
def Fence.closedBy (f : Fence) (cs : List Char) : Bool :=
  let size := runLength f.mark cs
  decide (f.size ≤ size) && (cs.drop size).all (· = ' ')

/-- The mark in front of a list item. -/
structure ListMarker where
  /-- The bullet, or the character after the number. -/
  delimiter : Char
  number : Nat
  /-- How far the text of the item is indented. -/
  indent : Nat
  deriving Repr

/-- Is it the delimiter of a bullet? -/
def isBullet (c : Char) : Bool :=
  c = '-' || c = '+' || c = '*'

/-- The bullet, or the number and its delimiter, that a text starts with, and how many characters
that takes. A number has at most nine digits. -/
def itemMark? (cs : List Char) : Option (Char × Nat × Nat) :=
  match cs with
  | [] => none
  | c :: _ =>
    if isBullet c then some (c, 0, 1)
    else
      let digits := (cs.take 9).takeWhile Char.isDigit
      match cs.drop digits.length with
      | d :: _ =>
        if !digits.isEmpty && (d = '.' || d = ')') then
          some (d, digits.foldl (fun n e => n * 10 + (e.toNat - 48)) 0, digits.length + 1)
        else none
      | [] => none

/-- The mark of a list item at the cursor, which stands `indent` columns into its container, and the
cursor at the text of the item. -/
def listMarker? (indent : Nat) (c : Cursor) : Option (ListMarker × Cursor) :=
  match itemMark? c.rest with
  | none => none
  | some (delimiter, number, size) =>
    if isBullet delimiter && isThematicBreak c.rest then none
    else
      let c := c.skip size
      let (gap, c) := c.eat 1
      if gap = 0 && !c.atEnd then none
      else
        let indent := indent + size + 1
        if isBlankLine c.rest then some (⟨delimiter, number, indent⟩, c)
        else
          let (more, d) := c.eat 4
          if more < 4 then some (⟨delimiter, number, indent + more⟩, d)
          else some (⟨delimiter, number, indent⟩, c)

/-- The box of a task at the cursor, and the cursor behind it. A blank must follow. -/
def taskBox? (c : Cursor) : Option (Bool × Cursor) :=
  let (_, c) := c.eat 3
  match c.rest with
  | '[' :: mark :: ']' :: after :: _ =>
    if !isSpace after then none
    else if isSpace mark then some (false, c.skip 3)
    else if mark = 'x' || mark = 'X' then some (true, c.skip 3)
    else none
  | _ => none

/-- The label of a footnote that is defined at the start of the text, and how many characters its
mark takes. -/
def noteMark? (cs : List Char) : Option (List Char × Nat) :=
  match cs with
  | '[' :: '^' :: rest =>
    match label? false (Glyph.ofChars 0 rest) with
    | some (label, after) =>
      if after.head?.any (·.char = ':') then some (label, cs.length - after.length + 1) else none
    | none => none
  | _ => none

end Marginalia.Markdown
