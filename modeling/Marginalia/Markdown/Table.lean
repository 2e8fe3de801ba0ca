import Marginalia.Markdown.Container

/-!
Tables: a head row, a row of dashes that sets the columns, and body rows.
-/

namespace Marginalia.Markdown

/-- A reader of the row of dashes. -/
structure ColumnReader where
  /-- The columns read, last one first. -/
  columns : List Alignment := []
  current : Alignment := .none
  /-- Has the column nothing in it yet? -/
  fresh : Bool := true
  /-- Has the column a dash? -/
  dashed : Bool := false
  anyPipe : Bool := false
  anyDash : Bool := false

/-- Reads one character of the row of dashes. -/
def ColumnReader.step (r : ColumnReader) (c : Char) : Option ColumnReader :=
  match c with
  | ' ' => some r
  | ':' =>
    let current := match r.fresh, r.current with
      | true, .none => Alignment.left
      | false, .left => .center
      | false, .none => .right
      | _, a => a
    some { r with current, fresh := false }
  | '-' => some { r with fresh := false, dashed := true, anyDash := true }
  | '|' =>
    if r.dashed then
      some { r with
        columns := r.current :: r.columns, current := .none, fresh := true, dashed := false,
        anyPipe := true }
    else none
  | _ => none

/-- Reads the row of dashes. -/
def ColumnReader.run : ColumnReader → List Char → Option ColumnReader
  | r, [] => some r
  | r, c :: cs => (r.step c).bind (·.run cs)

/-- The columns that a row of dashes sets. -/
def columns? (c : Cursor) : Option (List Alignment) :=
  let (indent, d) := Cursor.eat 4 { rest := c.rest }
  if 3 < indent then none
  else
    let (start, cs) := match d.rest with
      | '|' :: rest => (({ anyPipe := true } : ColumnReader), rest)
      | rest => ({}, rest)
    match start.run cs with
    | none => none
    | some r =>
      let columns := if r.fresh then r.columns else r.current :: r.columns
      if r.anyPipe && r.anyDash && !columns.isEmpty then some columns.reverse else none

/-- The pieces of a row between the pipes that no backslash stands before. -/
def splitRow : (escaped : Bool) → List Glyph → List (List Glyph)
  | _, [] => [[]]
  | escaped, g :: rest =>
    if g.char = '|' && !escaped then [] :: splitRow false rest
    else match splitRow (g.char = '\\') rest with
      | [] => [[g]]
      | p :: ps => (g :: p) :: ps

/-- The text of a cell, in which a backslash and a pipe stand for a pipe. -/
def unescapePipes : List Glyph → List Glyph
  | [] => []
  | g :: rest =>
    match g.char, rest.head? with
    | '\\', some h => if h.char = '|' then unescapePipes rest else g :: unescapePipes rest
    | _, _ => g :: unescapePipes rest

/-- The text of a cell without the blanks around it. -/
def trimCell (gs : List Glyph) : List Glyph :=
  ((gs.dropWhile (isSpace ·.char)).reverse.dropWhile (isSpace ·.char)).reverse

/-- The cells of a row. A pipe at the start and one at the end belong to no cell. -/
def rowCells (gs : List Glyph) : List (List Glyph) :=
  let pieces := splitRow false gs
  let pieces := if gs.head?.any (·.char = '|') then pieces.drop 1 else pieces
  let pieces :=
    if pieces.getLast?.any (·.all (isSpace ·.char)) then pieces.dropLast else pieces
  pieces.map fun p => unescapePipes (trimCell p)

/-- The first `n` cells of a row, with empty cells where there are fewer. -/
def fitCells (n : Nat) (cells : List (List Glyph)) : List (List Glyph) :=
  (cells ++ List.replicate (n - cells.length) []).take n

/-- How many columns the head row has: the pipes that part cells, and one. -/
def headWidth (cs : List Char) : Nat :=
  let pieces := splitRow false (Glyph.ofChars 0 cs)
  let pipes := pieces.length - 1
  let pipes := if (cs.dropWhile isSpace).head? = some '|' then pipes - 1 else pipes
  if pieces.getLast?.any (·.all (isSpace ·.char)) then pipes else pipes + 1

/-- The columns of the table whose head row stands above the line. The head row must have a pipe and
as many cells as the row of dashes has columns, and no backslash may end it. -/
def tableColumns? (ks : List Container) (head : List Char) (next : Option SourceLine) :
    Option (List Alignment) :=
  let endsOpen := (head.reverse.takeWhile (· = '\\')).length % 2 = 1
  if endsOpen || (splitRow false (Glyph.ofChars 0 head)).length < 2 then none
  else
    match next.bind (resumeAll? ks) with
    | none => none
    | some c =>
      match columns? c with
      | none => none
      | some columns => if columns.length = headWidth head then some columns else none

/-- The body rows of a table, and how many lines they take. -/
def bodyRows (ks : List Container) (width : Nat) :
    List SourceLine → List (List (List Glyph)) × Nat
  | [] => ([], 0)
  | l :: ls =>
    match resumeAll? ks l with
    | none => ([], 0)
    | some c =>
      let c := c.eatAll
      if interrupts true true ls.head? c.rest then ([], 0)
      else
        let cells := rowCells (Glyph.ofChars (l.start + c.read) c.rest)
        if cells.isEmpty then ([], 0)
        else
          let (rows, n) := bodyRows ks width ls
          (fitCells width cells :: rows, n + 1)

end Marginalia.Markdown
