import Marginalia.Page.Parts
import Marginalia.Site.Navigation

/-!
The pages of a site: one for each document, and the index page that lists all files.
-/

namespace Marginalia.Page
open Html

/-- A page around its body. -/
def frame (s : Site) (page title : String) (current : Option Document) (body : String) : String :=
  let root := rootOf page
  unlines [
    "<!DOCTYPE html>",
    "<html lang=\"en\">",
    "<head>",
    "  <meta charset=\"UTF-8\">",
    "  <meta name=\"viewport\" content=\"width=device-width, initial-scale=1.0\">",
    "  <title>" ++ escape title ++ " - " ++ escape s.name ++ "</title>",
    "  <link rel=\"stylesheet\" href=\"" ++ root ++ "folio.css\">",
    "</head>",
    "<body data-root=\"" ++ root ++ "\">",
    "<nav class=\"sidebar\">",
    "  <div class=\"sidebar-header\">",
    "    <h2><a href=\"" ++ root ++ indexPage ++ "\">" ++ escape s.name ++ "</a></h2>",
    "  </div>",
    "  <div class=\"finder\">",
    "    <input id=\"search-input\" type=\"search\" placeholder=\"Search (press /)\"" ++
      " autocomplete=\"off\">",
    "    <ol id=\"search-results\" hidden></ol>",
    "  </div>"] ++
  sidebar s page current ++
  unlines [
    "</nav>",
    "<main class=\"content\">"] ++
  body ++
  unlines [
    "</main>",
    "<footer>",
    "  <p>Generated by " ++ signature ++ "</p>",
    "</footer>",
    "<script src=\"" ++ root ++ "search.js\"></script>",
    "</body>",
    "</html>"]

/-- The passages of a document, given the identifiers of the headings to come. -/
def sections (h : Highlighter) (s : Site) (d : Document) : List String → List Passage → String
  | _, [] => ""
  | ids, p :: rest =>
    if p.isProse then
      let (body, ids) := proseBody s d.source ids p
      "<section class=\"segment prose\">\n" ++ body ++ "</section>\n" ++ sections h s d ids rest
    else codeSection h d.language.highlighter p ++ sections h s d ids rest

/-- All that a document says. -/
def content (h : Highlighter) (s : Site) (d : Document) : String :=
  sections h s d (d.headings.map (·.anchor)) d.passages

/-- The way from the root of the site to a document. -/
def breadcrumbs (s : Site) (d : Document) (n : Site.Navigation) : String :=
  "<nav class=\"breadcrumbs\"><a href=\"" ++ Path.relativeUrl d.page indexPage ++ "\">" ++
    escape s.name ++ "</a>" ++
    String.join ((n.breadcrumbs.map (·.name) ++ [d.fileName]).map fun name =>
      " / <span>" ++ escape name ++ "</span>") ++
    "</nav>\n"

/-- Links to the documents before and after a page. -/
def pager (page : String) (n : Site.Navigation) : String :=
  let link (side text : String) (d : Document) :=
    "  <a class=\"" ++ side ++ "\" href=\"" ++ escape (Path.relativeUrl page d.page) ++ "\">" ++
      text ++ "</a>"
  let previous := n.previous.map fun d => link "prev" ("&larr; " ++ escape d.title) d
  let next := n.next.map fun d => link "next" (escape d.title ++ " &rarr;") d
  unlines (["<nav class=\"pager\">"] ++ previous.toList ++ next.toList ++ ["</nav>"])

/-- Why a document has no page. -/
inductive PageError where
  | notInSite (source : String)
  deriving DecidableEq, Repr

/-- The wording of an error. -/
def PageError.message : PageError → String
  | .notInSite source => "'" ++ source ++ "' is not part of the project"

/-- The page of a document. -/
def document (h : Highlighter) (s : Site) (d : Document) : Except PageError String :=
  match s.navigation? d.source with
  | none => .error (.notInSite d.source)
  | some n =>
    let head := unlines [
      "<header>",
      "  <h1>" ++ escape d.title ++ "</h1>",
      "  <p class=\"source-path\"><code>" ++ escape d.source ++ "</code> · " ++
        escape d.language.name ++ " · file " ++ Nat.repr n.position ++ " of " ++
        Nat.repr n.siblings ++ "</p>",
      "</header>"]
    .ok (frame s d.page d.title (some d)
      (breadcrumbs s d n ++ head ++ content h s d ++ pager d.page n))

/-- The list of all files. -/
def fileList (s : Site) : String :=
  unlines (
    ["<section class=\"contents\">", "  <h2>Files</h2>", "  <ul>"] ++
    s.documents.map (fun d =>
      "    <li><a href=\"" ++ escape d.page ++ "\"><code>" ++ escape d.source ++ "</code></a> " ++
        escape d.title ++ "</li>") ++
    ["  </ul>", "</section>"])

/-- The index page. If a document takes its place, it says what the document says. -/
def index (h : Highlighter) (s : Site) : String :=
  let title := (s.index?.map (·.title)).getD s.name
  let said := (s.index?.map (content h s)).getD ""
  frame s indexPage title s.index?
    (unlines ["<header>", "  <h1>" ++ escape title ++ "</h1>", "</header>"] ++ said ++ fileList s)

end Marginalia.Page
