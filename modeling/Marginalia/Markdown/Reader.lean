import Marginalia.Markdown.Paragraph
import Marginalia.Markdown.Table

/-!
Blocks read from lines. The reader keeps the containers that are open, innermost first, with what
they hold so far; every step takes one line or the lines of one block.
-/

namespace Marginalia.Markdown
open Text

/-- The text of a block before its inline markup is read. -/
structure Leaf where
  glyphs : List Glyph
  /-- May the text end in blanks? -/
  loose : Bool := false
  /-- The box of the task that the text describes. -/
  box : Option Bool := none

/-- A container that is open, with what it holds, last one first. -/
structure Frame where
  container : Container
  content : List (Block Leaf) := []
  /-- The items of a list. -/
  items : List (List (Block Leaf)) := []

/-- The reader between two lines. -/
structure Reader where
  /-- Open containers, innermost first. -/
  frames : List Frame := []
  /-- Blocks outside containers, last one first. -/
  blocks : List (Block Leaf) := []
  /-- Was the last line blank? -/
  afterBlank : Bool := false
  /-- Is the innermost container a list item that has only its mark yet? -/
  emptyItem : Bool := false
  /-- The box of a task that waits for a paragraph. -/
  box : Option Bool := none
  /-- Where labels lead, by their keys. -/
  links : List (List Char × LinkTarget) := []
  /-- The keys of the footnotes. -/
  notes : List (List Char) := []

namespace Reader

/-- The open containers, outermost first. -/
def containers (r : Reader) : List Container :=
  (r.frames.map (·.container)).reverse

/-- Adds a block to the innermost container. -/
def add (r : Reader) (b : Block Leaf) : Reader :=
  match r.frames with
  | [] => { r with blocks := b :: r.blocks }
  | f :: fs => { r with frames := { f with content := b :: f.content } :: fs }

/-- Opens a container. -/
def open_ (r : Reader) (k : Container) : Reader :=
  { r with frames := { container := k } :: r.frames }

/-- Closes the innermost container. -/
def close (r : Reader) : Reader :=
  match r.frames with
  | [] => r
  | f :: fs =>
    let outer := { r with frames := fs }
    let content := f.content.reverse
    match f.container with
    | .quote => outer.add (.quote content)
    | .footnote label => outer.add (.footnote label content)
    | .list delimiter first loose =>
      outer.add (.list (if isBullet delimiter then none else some first) (!loose) f.items.reverse)
    | .item _ =>
      match fs with
      | g :: gs => { r with frames := { g with items := content :: g.items } :: gs }
      | [] => outer

/-- Closes `n` containers. -/
def closeMany : (n : Nat) → Reader → Reader
  | 0, r => r
  | n + 1, r => closeMany n r.close

/-- Marks a list as loose, so that its paragraphs are set apart. -/
def loosen (f : Frame) : Frame :=
  match f.container with
  | .list delimiter first _ => { f with container := .list delimiter first true }
  | _ => f

/-- Closes a list whose next item does not follow. After a blank line the list whose item goes on is
loose. -/
def endList (r : Reader) : Reader :=
  let r := match r.frames with
    | f :: _ => match f.container with
      | .list .. => r.close
      | _ => r
    | [] => r
  if r.afterBlank then
    let frames := match r.frames with
      | f :: g :: fs => f :: loosen g :: fs
      | fs => fs
    { r with frames, afterBlank := false }
  else r

/-- Goes on with a list of the same kind, or starts one. -/
def enterList (r : Reader) (delimiter : Char) (number : Nat) : Reader :=
  let start (r : Reader) : Reader :=
    { r.open_ (.list delimiter number false) with afterBlank := false }
  match r.frames with
  | [] => start r
  | f :: fs =>
    match f.container with
    | .list d _ _ =>
      if d = delimiter then
        if r.afterBlank then { r with frames := loosen f :: fs, afterBlank := false } else r
      else start r.endList
    | _ => start r.endList

/-- Starts a footnote, outside of any list and of another footnote. -/
def enterFootnote (r : Reader) (label : List Char) : Reader :=
  let r := r.endList
  let r := match r.frames with
    | f :: _ => match f.container with
      | .footnote _ => r.close
      | _ => r
    | [] => r
  { r.open_ (.footnote (String.ofList label)) with notes := labelKey label :: r.notes }

/-- Opens the containers whose marks stand at the cursor, up to `fuel` of them. The flag says that
the line ends with the mark of a list item. -/
def enter : (fuel : Nat) → Reader → Cursor → Reader × Cursor × Bool
  | 0, r, c => (r, c, false)
  | fuel + 1, r, c =>
    let (indent, d) := c.eat 4
    if indent = 4 then (r, c, false)
    else match noteMark? d.rest with
      | some (label, size) =>
        enter fuel (r.enterFootnote label) { rest := d.rest.drop size, read := d.read + size }
      | none =>
        match listMarker? indent d with
        | some (mark, e) =>
          let r := (r.enterList mark.delimiter mark.number).open_ (.item mark.indent)
          if isBlankLine e.rest then ({ r with emptyItem := true }, e, true)
          else match taskBox? e with
            | some (done, e) =>
              if isBlankLine e.rest then ({ r.add (.task done) with emptyItem := true }, e, true)
              else enter fuel { r with box := some done } e
            | none => enter fuel r e
        | none =>
          match quoteMark? d with
          | some e => enter fuel (r.endList.open_ .quote) e
          | none => (r, c, false)

/-- A blank line. A list item that starts with a blank line ends with the second one. -/
def blankLine (r : Reader) : Reader :=
  match r.frames with
  | f :: _ =>
    match f.container with
    | .quote => r
    | .item _ =>
      if r.emptyItem then { r.close with afterBlank := true, emptyItem := false }
      else { r with afterBlank := true }
    | _ => { r with afterBlank := true }
  | [] => { r with afterBlank := true }

/-- The lines of indented code after the first, each with whether it is blank. -/
def indentedLines (ks : List Container) : List SourceLine → List (List Char × Bool)
  | [] => []
  | l :: ls =>
    match resumeAll? ks l with
    | none => []
    | some c =>
      let (n, d) := c.eat 4
      if n = 4 || d.atEnd then
        (d.remainder ++ l.codeEnding, isBlankLine d.rest) :: indentedLines ks ls
      else []

/-- Indented code. Blank lines at its end are no part of it. -/
def indentedCode (r : Reader) (c : Cursor) (l : SourceLine) (ls : List SourceLine) :
    Reader × Nat :=
  let more := indentedLines r.containers ls
  let kept := (more.reverse.dropWhile (·.2)).reverse
  let text := c.remainder ++ l.codeEnding ++ kept.flatMap (·.1)
  ({ r.add (.indented (String.ofList text)) with afterBlank := more.getLast?.any (·.2) },
    more.length)

/-- The lines of fenced code, and how many lines they take with the closing fence. -/
def fencedLines (ks : List Container) (indent : Nat) (f : Fence) :
    List SourceLine → List (List Char) × Nat
  | [] => ([], 0)
  | l :: ls =>
    match resumeAll? ks l with
    | none => ([], 0)
    | some c =>
      let d := (c.eat indent).2
      let (more, e) := d.eat (4 - indent)
      if more < 4 - indent && f.closedBy e.rest then ([], 1)
      else
        let (texts, n) := fencedLines ks indent f ls
        ((d.remainder ++ l.codeEnding) :: texts, n + 1)

/-- Fenced code, whose fence stands at the cursor. -/
def fencedCode (r : Reader) (c : Cursor) (indent : Nat) (f : Fence) (ls : List SourceLine) :
    Reader × Nat :=
  let info := dropWhileEnd isWhite ((c.rest.drop f.size).dropWhile isSpace)
  let (texts, n) := fencedLines r.containers indent f ls
  (r.add (.fenced (unescape info) (String.ofList texts.flatten)), n)

/-- The lines of a block of HTML after the line `last`. -/
def htmlLines (ks : List Container) (stop : HtmlEnd) :
    (last : List Char) → List SourceLine → List (List Char)
  | _, [] => []
  | last, l :: ls =>
    let ended := match stop with
      | .mark text => holds text last
      | .blank => false
    if ended then []
    else match resumeAll? ks l with
      | none => []
      | some c =>
        if (stop matches .blank) && isBlankLine c.rest then []
        else (c.remainder ++ l.codeEnding) :: htmlLines ks stop c.rest ls

/-- A block of HTML at the cursor. -/
def htmlBlock (r : Reader) (c : Cursor) (indent : Nat) (stop : HtmlEnd) (l : SourceLine)
    (ls : List SourceLine) : Reader × Nat :=
  let more := htmlLines r.containers stop c.rest ls
  let text := List.replicate indent ' ' ++ c.rest ++ l.codeEnding ++ more.flatten
  (r.add (.html (String.ofList text)), more.length)

/-- The text of a heading, without the number signs that may close it behind a space. -/
def headingText (cs : List Char) : List Char :=
  let body := dropWhileEnd (· = ' ') cs
  let front := dropWhileEnd (· = '#') body
  if front.isEmpty then []
  else if front.getLast? = some ' ' then dropWhileEnd (· = ' ') front
  else body

/-- A heading whose number signs stand at the cursor. -/
def heading (r : Reader) (c : Cursor) (level : Nat) (l : SourceLine) : Reader :=
  let after := c.rest.drop level
  let body := after.dropWhile isSpace
  let offset := l.start + c.read
  let start := offset + level + (after.length - body.length)
  r.add (.heading level offset { glyphs := Glyph.ofChars start (headingText body), loose := true })

/-- Keeps where a label leads, unless it leads somewhere already. -/
def define (r : Reader) (label : List Char) (target : LinkTarget) : Reader :=
  let key := labelKey label
  if (r.links.lookup key).isSome then r else { r with links := (key, target) :: r.links }

/-- The definition of a label at the cursor, and how many further lines it takes. -/
def definition (r : Reader) (c : Cursor) (l : SourceLine) (ls : List SourceLine) :
    Option (Reader × Nat) :=
  if c.rest.head? = some '[' then
    let ks := r.containers
    let (more, _, _) :=
      followers ks l.ending (l.start + l.text.length) (beforeUnderline ks ls)
    let glyphs := Glyph.ofChars (l.start + c.read) c.rest ++ more
    (definition? glyphs).map fun (label, target, rest) =>
      (r.define label target, breaks (glyphs.take (glyphs.length - rest.length)))
  else none

/-- A table, a paragraph or an underlined heading that starts at the cursor. Only a table loses the
box of a task in front of it. -/
def paragraph (r : Reader) (c : Cursor) (l : SourceLine) (ls : List SourceLine) :
    Reader × Nat :=
  let ks := r.containers
  let offset := l.start + c.read
  let first := Glyph.ofChars offset c.rest
  match tableColumns? ks c.rest ls.head? with
  | some columns =>
    let width := columns.length
    let (rows, n) := bodyRows ks width (ls.drop 1)
    let leaf (gs : List Glyph) : Leaf := { glyphs := gs }
    let head := (fitCells width (rowCells first)).map leaf
    (({ r with box := none } : Reader).add (.table columns head (rows.map (·.map leaf))), n + 1)
  | none =>
    let (more, level, n) := followers ks l.ending (l.start + l.text.length) ls
    let leaf : Leaf := { glyphs := first ++ more, box := r.box }
    let r : Reader := { r with box := none }
    match level with
    | some level => (r.add (.heading level offset leaf), n)
    | none => (r.add (.paragraph leaf), n)

/-- A block that is no container, on a line that is not blank. -/
def leafBlock (r : Reader) (c : Cursor) (l : SourceLine) (ls : List SourceLine) :
    Reader × Nat :=
  let (indent, d) := c.eat 4
  if indent = 4 then r.indentedCode d l ls
  else match htmlEnd? d.rest with
    | some stop => r.htmlBlock d indent stop l ls
    | none =>
      if isThematicBreak d.rest then (r.add .rule, 0)
      else match headingLevel? d.rest with
        | some level => (r.heading d level l, 0)
        | none =>
          match fence? d.rest with
          | some f => r.fencedCode d indent f ls
          | none =>
            match r.definition d l ls with
            | some found => found
            | none => r.paragraph d l ls

/-- Reads a line and the lines of the block that starts on it. Says how many lines after it that
takes. -/
def step (r : Reader) (l : SourceLine) (ls : List SourceLine) : Reader × Nat :=
  let (n, c) := resume r.containers (Cursor.ofLine l)
  let r := closeMany (r.frames.length - n) r
  let (r, c, ended) := enter (c.rest.length + 1) r c
  if ended then (r, 0)
  else if isBlankLine c.rest then (r.blankLine, 0)
  else ({ r with emptyItem := false } : Reader).endList.leafBlock c l ls

/-- Reads lines. -/
def run (r : Reader) : List SourceLine → Reader
  | [] => r
  | l :: ls =>
    let (next, n) := r.step l ls
    next.run (ls.drop n)
  termination_by ls => ls.length
  decreasing_by rw [List.length_drop, List.length_cons]; omega

end Reader

/-- The blocks of a document, where its labels lead and which footnotes it has. -/
structure Blocks where
  blocks : List (Block Leaf)
  links : List (List Char × LinkTarget)
  notes : List (List Char)

/-- Reads the blocks of a document. -/
def readBlocks (cs : List Char) : Blocks :=
  let r := Reader.run {} (sourceLines cs)
  let r := Reader.closeMany r.frames.length r
  ⟨r.blocks.reverse, r.links, r.notes⟩

end Marginalia.Markdown
