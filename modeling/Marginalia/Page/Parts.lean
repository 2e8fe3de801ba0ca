import Marginalia.Markdown.Render
import Marginalia.Site.Basic

/-!
The parts of a page: the prose and the code of a document, and the contents of the site beside them.
Links in prose lead to the pages of files, and those that lead nowhere are marked. Code stands beside
the numbers of its lines, and a highlighter marks it up.
-/

namespace Marginalia.Page
open Html Markdown

/-- The name and version that a site is signed with. -/
def signature : String :=
  "Folio 0.4.0"

/-- The texts, each on a line of its own. -/
def unlines (lines : List String) : String :=
  String.join (lines.map (· ++ "\n"))

/-- The way from a page to the root of its site: one step up for each directory. -/
def rootOf (page : String) : String :=
  String.join (List.replicate (page.toList.count '/') "../")

/-! ## Prose -/

/-- The tag of a link that leads nowhere. -/
def brokenTag (destination : String) : String :=
  "<a href=\"" ++ Html.escape destination ++ "\" class=\"broken-link\" title=\"broken link\">"

/-- Points a link of a file at the page it leads to. -/
def pointLink (s : Site) (source : String) : Event → Event
  | .start (.link kind destination title offset) =>
    if Outline.namesFile kind && Outline.isRelativeTarget destination then
      match s.href? source destination with
      | some address => .start (.link kind address title offset)
      | none => .html (brokenTag destination)
    else .start (.link kind destination title offset)
  | e => e

/-- A passage of prose, whose headings take identifiers in turn, and the identifiers left over. -/
def proseBody (s : Site) (source : String) (ids : List String) (p : Passage) :
    String × List String :=
  Markdown.render ids ((Markdown.events p.text).map (pointLink s source))

/-! ## Code -/

/-- Turns code in a language into markup. -/
abbrev Highlighter := (code language : String) → String

/-- Escaped code that names its language, for scripts in the browser to pick up. -/
def plainHighlighter : Highlighter := fun code language =>
  "<pre><code class=\"language-" ++ Html.escape language ++ "\">" ++ Html.escape code ++
    "</code></pre>"

/-- The number of a line, which is an anchor and links to itself. -/
def lineAnchor (n : Nat) : String :=
  let name := "L" ++ Nat.repr n
  "<a id=\"" ++ name ++ "\" href=\"#" ++ name ++ "\">" ++ Nat.repr n ++ "</a>"

/-- The numbers of the lines of a passage. -/
def gutter (p : Passage) : String :=
  "<pre class=\"gutter\">" ++ unlines ((List.range p.size).map fun i => lineAnchor (p.start + i)) ++
    "</pre>\n"

/-- A passage of code. -/
def codeSection (h : Highlighter) (language : String) (p : Passage) : String :=
  let listing := "<div class=\"listing\">\n" ++ gutter p ++ h p.text language ++ "\n</div>\n"
  let shown :=
    if p.folded then
      "<details class=\"folded\"><summary>" ++ Nat.repr p.size ++ " hidden line(s)</summary>\n" ++
        listing ++ "</details>\n"
    else listing
  "<section class=\"segment code\">\n" ++ shown ++ "</section>\n"

/-! ## Contents -/

/-- A file in the contents. -/
def sidebarFile (page : String) (current : Option Document) (name : String) (d : Document) :
    String :=
  let mark := if current.any (·.source = d.source) then " class=\"current\"" else ""
  "<li><a href=\"" ++ escape (Path.relativeUrl page d.page) ++ "\" title=\"" ++ escape d.title ++
    "\"" ++ mark ++ ">" ++ escape name ++ "</a></li>"

mutual

/-- An entry of a list that is indented so far. -/
def sidebarEntry (s : Site) (page : String) (current : Option Document) (indent : String) :
    Contents Nat → String
  | .file name n =>
    match s.documents[n]? with
    | some d => indent ++ "  " ++ sidebarFile page current name d ++ "\n"
    | none => ""
  | .directory name _ children =>
    indent ++ "  <li class=\"toc-dir\"><span>" ++ escape name ++ "/</span>\n" ++
      indent ++ "    <ul class=\"toc\">\n" ++
      sidebarEntries s page current (indent ++ "    ") children ++
      indent ++ "    </ul>\n" ++ indent ++ "  </li>\n"

/-- The entries of a list. -/
def sidebarEntries (s : Site) (page : String) (current : Option Document) (indent : String) :
    List (Contents Nat) → String
  | [] => ""
  | c :: cs => sidebarEntry s page current indent c ++ sidebarEntries s page current indent cs

end

/-- The contents of a site as a page shows them, with the document of the page marked. -/
def sidebar (s : Site) (page : String) (current : Option Document) : String :=
  "  <ul class=\"toc\">\n" ++ sidebarEntries s page current "  " s.contents.children ++ "  </ul>\n"

end Marginalia.Page
