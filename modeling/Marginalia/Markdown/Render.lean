import Marginalia.Markdown.Event

/-!
Markdown documents as HTML. The writer goes through the events and knows whether it stands at the
start of a line; blocks start on a line of their own. Headings get their identifiers from a list,
one after the other. Inside an image only text is written, up to where the image stops. In
text the characters that mean something to HTML are written as entities.
-/

namespace Marginalia.Html

/-- How a character is written where an attribute or an element holds it. -/
def escapeChar : Char → List Char
  | '&' => "&amp;".toList
  | '<' => "&lt;".toList
  | '>' => "&gt;".toList
  | '"' => "&quot;".toList
  | '\'' => "&#39;".toList
  | c => [c]

/-- The text as an attribute or an element may hold it. -/
def escape (s : String) : String :=
  String.ofList (s.toList.flatMap escapeChar)

/-- How a character is written between tags, where quotes are plain. -/
def escapeBodyChar : Char → List Char
  | '&' => "&amp;".toList
  | '<' => "&lt;".toList
  | '>' => "&gt;".toList
  | c => [c]

/-- The text as it may stand between tags. -/
def escapeBody (s : String) : String :=
  String.ofList (s.toList.flatMap escapeBodyChar)

end Marginalia.Html

namespace Marginalia.Markdown
open Html

/-- May the character stand in an address as it is? -/
def isAddressChar (c : Char) : Bool :=
  c.isAlphanum || "!#$%()*+,-./:;=?@^_~".toList.contains c

/-- How a character is written in an address. -/
def addressChar (c : Char) : List Char :=
  if isAddressChar c then [c]
  else if c = '&' then "&amp;".toList
  else if c = '\'' then "&#x27;".toList
  else (String.utf8EncodeChar c).flatMap Url.percentByte

/-- An address as the value of an attribute. -/
def escapeAddress (s : String) : String :=
  String.ofList (s.toList.flatMap addressChar)

/-- An image whose text is being written. -/
structure OpenImage where
  title : String
  /-- How many parts inside it have not stopped. -/
  depth : Nat := 0

/-- The writer between two events. -/
structure Writer where
  out : String := ""
  /-- Is the end of the output the start of a line? -/
  fresh : Bool := true
  /-- Identifiers for the headings to come. -/
  ids : List String := []
  /-- Labels of footnotes in the order in which they came up. -/
  labels : List String := []
  columns : List Alignment := []
  /-- How many cells of the row are written. -/
  cell : Nat := 0
  inHead : Bool := true
  image : Option OpenImage := none

namespace Writer

/-- Does the text end in a line feed? -/
def endsLine (s : String) : Bool :=
  s.toList.getLast? = some '\n'

/-- Writes markup. -/
def write (w : Writer) (s : String) : Writer :=
  if s = "" then w else { w with out := w.out ++ s, fresh := endsLine s }

/-- Writes text that is escaped already, whose last character before that decides where the output
stands. -/
def writeText (w : Writer) (s escaped : String) : Writer :=
  { w with out := w.out ++ escaped, fresh := endsLine s }

/-- Writes markup on a new line. -/
def line (w : Writer) (s : String) : Writer :=
  w.write (if w.fresh then s else "\n" ++ s)

/-- The number of a footnote, by the order in which labels come up. -/
def number (w : Writer) (label : String) : Nat × Writer :=
  match w.labels.findIdx? (· = label) with
  | some i => (i + 1, w)
  | none => (w.labels.length + 1, { w with labels := w.labels ++ [label] })

/-- The attribute of a title. -/
def titleAttribute (title : String) : String :=
  if title = "" then "" else "\" title=\"" ++ escape title

/-- The attribute that sets a column. -/
def alignmentAttribute : Alignment → String
  | .none => ">"
  | .left => " style=\"text-align: left\">"
  | .center => " style=\"text-align: center\">"
  | .right => " style=\"text-align: right\">"

/-- Starts a heading, with the next identifier if there is one. -/
def startHeading (w : Writer) (level : Nat) : Writer :=
  let name := "<h" ++ Nat.repr level
  match w.ids with
  | [] => w.line (name ++ ">")
  | id :: ids => { w.line (name ++ " id=\"" ++ escape id ++ "\">") with ids }

/-- Starts fenced code. The first word behind the fence names the language. -/
def startFenced (w : Writer) (info : String) : Writer :=
  let language := String.ofList (info.toList.takeWhile (· ≠ ' '))
  if language = "" then w.line "<pre><code>"
  else w.line ("<pre><code class=\"language-" ++ escape language ++ "\">")

/-- Writes where something starts. -/
def start (w : Writer) : Tag → Writer
  | .html => w
  | .paragraph => w.line "<p>"
  | .heading level _ => w.startHeading level
  | .quote => w.line "<blockquote>\n"
  | .fenced info => w.startFenced info
  | .indented => w.line "<pre><code>"
  | .list none => w.line "<ul>\n"
  | .list (some first) =>
    if first = 1 then w.line "<ol>\n"
    else w.line ("<ol start=\"" ++ Nat.repr first ++ "\">\n")
  | .item => w.line "<li>"
  | .footnote label =>
    let (n, w) := w.number label
    w.line ("<div class=\"footnote-definition\" id=\"" ++ escape label ++
      "\"><sup class=\"footnote-definition-label\">" ++ Nat.repr n ++ "</sup>")
  | .table columns => { w with columns }.write "<table>"
  | .tableHead => { w with inHead := true, cell := 0 }.write "<thead><tr>"
  | .tableRow => { w with cell := 0 }.write "<tr>"
  | .tableCell =>
    w.write ((if w.inHead then "<th" else "<td") ++
      alignmentAttribute (w.columns.getD w.cell .none))
  | .emphasis => w.write "<em>"
  | .strong => w.write "<strong>"
  | .struck => w.write "<del>"
  | .link kind destination title _ =>
    let scheme := if kind = .mail then "mailto:" else ""
    w.write ("<a href=\"" ++ scheme ++ escapeAddress destination ++ titleAttribute title ++ "\">")
  | .image destination title =>
    { w.write ("<img src=\"" ++ escapeAddress destination ++ "\" alt=\"") with
      image := some { title } }

/-- Writes where something stops. -/
def stop (w : Writer) : Tag → Writer
  | .html => w
  | .paragraph => w.write "</p>\n"
  | .heading level _ => w.write ("</h" ++ Nat.repr level ++ ">\n")
  | .quote => w.write "</blockquote>\n"
  | .fenced _ => w.write "</code></pre>\n"
  | .indented => w.write "</code></pre>\n"
  | .list none => w.write "</ul>\n"
  | .list (some _) => w.write "</ol>\n"
  | .item => w.write "</li>\n"
  | .footnote _ => w.write "</div>\n"
  | .table _ => w.write "</tbody></table>\n"
  | .tableHead => { w.write "</tr></thead><tbody>\n" with inHead := false }
  | .tableRow => w.write "</tr>\n"
  | .tableCell => { w.write (if w.inHead then "</th>" else "</td>") with cell := w.cell + 1 }
  | .emphasis => w.write "</em>"
  | .strong => w.write "</strong>"
  | .struck => w.write "</del>"
  | .link .. => w.write "</a>"
  | .image .. => w

/-- An event outside images. -/
def plainStep (w : Writer) : Event → Writer
  | .start tag => w.start tag
  | .stop tag => w.stop tag
  | .text content => w.writeText content (escapeBody content)
  | .code content => w.write ("<code>" ++ escapeBody content ++ "</code>")
  | .html content => w.write content
  | .softBreak => w.write "\n"
  | .hardBreak => w.write "<br />\n"
  | .rule => w.line "<hr />\n"
  | .task done =>
    w.write ("<input disabled=\"\" type=\"checkbox\"" ++ (if done then " checked=\"\"" else "") ++
      "/>\n")
  | .note label =>
    let (n, w) := w.number label
    w.write ("<sup class=\"footnote-reference\"><a href=\"#" ++ escape label ++ "\">" ++
      Nat.repr n ++ "</a></sup>")

/-- An event inside an image. -/
def imageStep (w : Writer) (image : OpenImage) : Event → Writer
  | .start _ => { w with image := some { image with depth := image.depth + 1 } }
  | .stop _ =>
    match image.depth with
    | 0 => { w with image := none }.write (titleAttribute image.title ++ "\" />")
    | depth + 1 => { w with image := some { image with depth } }
  | .text content => w.writeText content (escape content)
  | .code content => w.writeText content (escape content)
  | .html content => w.writeText content (escape content)
  | .softBreak => w.write " "
  | .hardBreak => w.write " "
  | .rule => w.write " "
  | .task done => w.write (if done then "[x]" else "[ ]")
  | .note label =>
    let (n, w) := w.number label
    { w with out := w.out ++ "[" ++ Nat.repr n ++ "]" }

/-- One event. -/
def step (w : Writer) (e : Event) : Writer :=
  match w.image with
  | none => w.plainStep e
  | some image => w.imageStep image e

end Writer

/-- The HTML of events, whose headings take identifiers in turn, and the identifiers left over. -/
def render (ids : List String) (events : List Event) : String × List String :=
  let w := events.foldl Writer.step { ids }
  (w.out, w.ids)

end Marginalia.Markdown
