import Marginalia.Page.Basic
import Marginalia.Page.SearchIndex
import Marginalia.Page.SearchScript
import Marginalia.Page.Stylesheet

/-!
All files of a site, in the order in which they are written: its pages and the files that stand beside
them.
-/

namespace Marginalia.Page

/-- A file of a site that is no page. -/
structure Asset where
  path : String
  contents : String
  deriving DecidableEq, Repr

/-- The style sheet, the search script and the search index. -/
def assets (s : Site) : List Asset := [
  ⟨"folio.css", stylesheet⟩,
  ⟨"search.js", searchScript⟩,
  ⟨"search-index.json", searchIndexJson s⟩]

/-- A file of a site. -/
structure OutputFile where
  path : String
  text : String
  deriving DecidableEq, Repr

/-- The documents that have a page besides the index page. -/
def ownPages (s : Site) : List Document :=
  s.documents.filter (·.page ≠ indexPage)

/-- The page of a document as a file. -/
def pageFile (h : Highlighter) (s : Site) (d : Document) : Except PageError OutputFile := do
  return ⟨d.page, ← document h s d⟩

/-- How many pages a site has. -/
def pageCount (s : Site) : Nat :=
  (ownPages s).length + 1

/-- The files of a site: pages, the index page and what stands beside them. -/
def outputFiles (h : Highlighter) (s : Site) : Except PageError (List OutputFile) := do
  let pages ← (ownPages s).mapM (pageFile h s)
  return pages ++ [⟨indexPage, index h s⟩] ++ (assets s).map fun a => ⟨a.path, a.contents⟩

end Marginalia.Page
