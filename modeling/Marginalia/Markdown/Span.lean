import Marginalia.Markdown.Destination
import Marginalia.Markdown.Emphasis
import Marginalia.Markdown.Tag

/-!
Inline text read from the glyphs of a block. The reader keeps the brackets that are open, innermost
first; a closing bracket makes a link or an image of what stands in them, or leaves them as text.
-/

namespace Marginalia.Markdown
open Text

/-- What brackets may refer to. -/
structure Scope where
  links : List (List Char × LinkTarget)
  notes : List (List Char)

/-- A bracket that is open. -/
structure Bracket where
  image : Bool
  offset : Nat
  /-- Can it still become a link? -/
  live : Bool := true
  /-- The glyphs after it. -/
  source : List Glyph
  /-- The pieces before it, last one first. -/
  before : List Piece

/-- The reader inside a block's text. -/
structure SpanReader where
  /-- Open brackets, innermost first. -/
  brackets : List Bracket := []
  /-- The pieces since the last bracket, last one first. -/
  pieces : List Piece := []
  /-- Plain text since the last piece, last character first. -/
  plain : List Char := []
  /-- The character before the next one; a blank at the start. -/
  last : Char := '\n'

namespace SpanReader

/-- Makes the plain text a piece. -/
def flush (r : SpanReader) : SpanReader :=
  if r.plain.isEmpty then r
  else
    { r with
      pieces := .inline (.text (String.ofList r.plain.reverse)) :: r.pieces, plain := [] }

/-- Adds plain text. -/
def write (r : SpanReader) (cs : List Char) : SpanReader :=
  { r with plain := cs.reverse ++ r.plain }

/-- Adds a finished part. -/
def put (r : SpanReader) (content : Inline) : SpanReader :=
  let r := r.flush
  { r with pieces := .inline content :: r.pieces }

/-- Opens a bracket. -/
def openBracket (r : SpanReader) (image : Bool) (offset : Nat) (source : List Glyph) :
    SpanReader :=
  let r := r.flush
  { r with brackets := { image, offset, source, before := r.pieces } :: r.brackets, pieces := [] }

/-- The mark of a bracket as text. -/
def bracketText (b : Bracket) : Inline :=
  .text (if b.image then "![" else "[")

/-- Pieces after a bracket that stays text, joined to those before it. -/
def asText (b : Bracket) (pieces : List Piece) : List Piece :=
  pieces ++ .inline (bracketText b) :: b.before

/-- Gives up the innermost bracket. -/
def dropBracket (r : SpanReader) : SpanReader :=
  match r.brackets with
  | [] => r
  | b :: bs =>
    let r := r.flush
    { r with brackets := bs, pieces := asText b r.pieces }

/-- Gives up all brackets. -/
def dropAll (r : SpanReader) : SpanReader :=
  let r := r.flush
  { r with brackets := [], pieces := r.brackets.foldl (fun pieces b => asText b pieces) r.pieces }

/-- Makes a link or an image of the innermost bracket. No link may stand around a link. -/
def makeLink (r : SpanReader) (b : Bracket) (target : LinkTarget) : SpanReader :=
  let r := r.flush
  let content := settleEmphasis r.pieces.reverse
  let node :=
    if b.image then Inline.image target.destination target.title content
    else .link .bracket target.destination target.title b.offset content
  let outer := r.brackets.drop 1
  let outer := if b.image then outer
    else outer.map fun o => if o.image then o else { o with live := false }
  { r with brackets := outer, pieces := .inline node :: b.before }

/-- Makes a reference to a footnote of the innermost bracket. The brackets around it stay text. -/
def makeNote (r : SpanReader) (b : Bracket) (label : List Char) : SpanReader :=
  let r := r.flush
  let before := if b.image then .inline (.text "!") :: b.before else b.before
  let pieces := .inline (.note (String.ofList label)) :: before
  ({ r with brackets := r.brackets.drop 1, pieces } : SpanReader).dropAll

/-- What the innermost bracket, closed before `rest`, refers to by label, and how many glyphs of
`rest` belong to it: another label in brackets, an empty pair of brackets, or nothing. -/
def referred (b : Bracket) (rest : List Glyph) : Option (Bracketed × Nat) :=
  let own (extra : Nat) : Option (Bracketed × Nat) :=
    match bracketed? b.source with
    | some (found, after) =>
      if after.length = rest.length then
        some (found, match found with
          | .note _ => 0
          | .link _ => extra)
      else none
    | none => none
  match rest with
  | g :: inner =>
    if g.char ≠ '[' then own 0
    else if inner.head?.any (·.char = ']') then own 2
    else match bracketed? inner with
      | some (.link label, after) => some (.link label, rest.length - after.length)
      | _ => own 0
  | [] => own 0

/-- Closes a bracket, and says how many glyphs of `rest` that takes. -/
def closeBracket (scope : Scope) (r : SpanReader) (rest : List Glyph) : SpanReader × Nat :=
  match r.brackets with
  | [] => (r.write [']'], 0)
  | b :: _ =>
    let asPlain := (r.dropBracket.write [']'], 0)
    if !b.live then asPlain
    else match inlineTarget? rest with
      | some (target, after) => (r.makeLink b target, rest.length - after.length)
      | none =>
        match referred b rest with
        | none => asPlain
        | some (.note label, n) =>
          if scope.notes.contains (labelKey label) then (r.makeNote b label, n) else asPlain
        | some (.link label, n) =>
          match scope.links.lookup (labelKey label) with
          | some target => (r.makeLink b target, n)
          | none => asPlain

/-- The text of a code span, without one space at each end if there is more than spaces in it. -/
def codeContent (gs : List Glyph) : String :=
  let cs := Glyph.codeText gs
  if cs.head? = some ' ' && cs.getLast? = some ' ' && cs.any (· ≠ ' ') then
    String.ofList (cs.drop 1).dropLast
  else String.ofList cs

/-- The glyphs before the next run of exactly `n` backticks, and what follows the run. `run` counts
the backticks right before. -/
def codeEnd (n : Nat) : (run : Nat) → List Glyph → Option (List Glyph × List Glyph)
  | run, [] => if run = n then some ([], []) else none
  | run, g :: rest =>
    if g.char = '`' then (codeEnd n (run + 1) rest).map fun (body, after) => (g :: body, after)
    else if run = n then some ([], g :: rest)
    else (codeEnd n 0 rest).map fun (body, after) => (g :: body, after)

/-- A code span that opens with `n` backticks before `rest`: its text and what follows it. -/
def codeSpan? (n : Nat) (rest : List Glyph) : Option (String × List Glyph) :=
  (codeEnd n 0 rest).map fun (body, after) => (codeContent (body.take (body.length - n)), after)

/-- A run of backticks, whose first one is read. -/
def backticks (r : SpanReader) (rest : List Glyph) : SpanReader × Nat :=
  let more := runLengthOf '`' rest
  match codeSpan? (more + 1) (rest.drop more) with
  | some (text, after) => (r.put (.code text), rest.length - after.length)
  | none => (r.write (List.replicate (more + 1) '`'), more)
where
  runLengthOf (c : Char) (gs : List Glyph) : Nat :=
    (gs.takeWhile (·.char = c)).length

/-- An angle bracket: an address, a tag or other markup, else text. -/
def angle (r : SpanReader) (offset : Nat) (rest : List Glyph) : SpanReader × Nat :=
  let address (kind : LinkKind) (cs : List Char) (after : List Glyph) : SpanReader × Nat :=
    let text := String.ofList cs
    (r.put (.link kind text "" offset [.text text]), rest.length - after.length)
  match address? rest with
  | some (cs, after) => address .address cs after
  | none =>
    match mail? rest with
    | some (cs, after) => address .mail cs after
    | none =>
      match tag? rest with
      | some after =>
        let n := rest.length - after.length
        (r.put (.html (String.ofList ('<' :: Glyph.tagText (rest.take n)))), n)
      | none =>
        match markup? rest with
        | some after =>
          let n := rest.length - after.length
          (r.put (.html (String.ofList ('<' :: Glyph.sourceText (rest.take n)))), n)
        | none => (r.write ['<'], 0)

/-- A run of marks of emphasis, whose first one is read. More than two tildes are text. -/
def emphasisRun (r : SpanReader) (mark : Char) (rest : List Glyph) : SpanReader × Nat :=
  let more := (rest.takeWhile (·.char = mark)).length
  let count := more + 1
  let next := ((rest.drop more).head?.map (·.char)).getD '\n'
  let opens := canOpen mark count r.last next
  let closes := canClose mark count r.last next
  if (opens || closes) && (mark ≠ '~' || count ≤ 2) then
    let r := r.flush
    ({ r with pieces := .run mark count opens closes :: r.pieces }, more)
  else (r.write (List.replicate count mark), more)

/-- A line break: a hard one after two or more blanks. The blanks go. -/
def lineBreak (r : SpanReader) : SpanReader :=
  let blanks := (r.plain.takeWhile isSpace).length
  let r := { r with plain := r.plain.drop blanks }
  r.put (if 2 ≤ blanks then .hardBreak else .softBreak)

/-- Reads a glyph, and says how many of `rest` are read with it. -/
def step (scope : Scope) (r : SpanReader) (g : Glyph) (rest : List Glyph) : SpanReader × Nat :=
  match g.char with
  | '\n' => (r.lineBreak, 0)
  | '\\' =>
    match rest with
    | h :: _ =>
      if h.isBreak then (r.put .hardBreak, 1)
      else if isAsciiPunctuation h.char then (r.write [h.char], 1)
      else (r.write ['\\'], 0)
    | [] => (r.write ['\\'], 0)
  | '`' => r.backticks rest
  | '<' => r.angle g.offset rest
  | '!' =>
    if rest.head?.any (·.char = '[') then (r.openBracket true g.offset (rest.drop 1), 1)
    else (r.write ['!'], 0)
  | '[' => (r.openBracket false g.offset rest, 0)
  | ']' => closeBracket scope r rest
  | '&' =>
    match entityAfter? (Glyph.chars rest) with
    | some (value, n) => (r.put (.text (String.ofList value)), n)
    | none => (r.write ['&'], 0)
  | c =>
    if c = '*' || c = '_' || c = '~' then r.emphasisRun c rest
    else (r.write [c], 0)

/-- Reads glyphs. -/
def run (scope : Scope) (r : SpanReader) : List Glyph → SpanReader
  | [] => r
  | g :: rest =>
    let (next, n) := step scope r g rest
    let last := ((g :: rest).drop n).head?.map (·.char)
    run scope { next with last := last.getD '\n' } (rest.drop n)
  termination_by gs => gs.length
  decreasing_by rw [List.length_drop, List.length_cons]; omega

/-- The text when no glyph is left. Blanks at the end go, unless they may stand there and follow
other plain text. -/
def finish (r : SpanReader) (loose : Bool) : List Inline :=
  let plain :=
    if loose && r.plain.any (!isSpace ·) then r.plain else r.plain.dropWhile isSpace
  let r := ({ r with plain } : SpanReader).dropAll
  settleEmphasis r.pieces.reverse

end SpanReader

/-- The inline text of a block. -/
def readSpan (scope : Scope) (loose : Bool) (gs : List Glyph) : List Inline :=
  (SpanReader.run scope {} gs).finish loose

end Marginalia.Markdown
