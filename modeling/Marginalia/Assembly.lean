import Marginalia.Language.Catalogue
import Marginalia.Site.Basic

/-!
Source files gathered into a site. Files whose language nobody knows are left out and reported.
-/

namespace Marginalia

/-- A source file as it comes in. -/
structure SourceFile where
  path : String
  text : String
  deriving DecidableEq, Repr

namespace Assembly

/-- The document of a file, or its path if no language claims it. -/
def readFile (c : Catalogue) (m : PageMap) (f : SourceFile) : Except String Document :=
  let path := Path.normalize f.path
  match c.byPath? path with
  | some l => .ok (Document.read path f.text l m)
  | none => .error path

/-- The site of the files, and what there is to report. -/
def run (c : Catalogue) (m : PageMap) (name : String) (files : List SourceFile) :
    Except SiteError (Site × Report) := do
  if files.isEmpty then throw .empty
  let read := files.map (readFile c m)
  let documents := read.filterMap fun
    | .ok d => some d
    | .error _ => none
  let skipped := read.filterMap fun
    | .ok _ => none
    | .error path => some (⟨path, .unrecognized⟩ : SkippedFile)
  let site ← Site.build name documents
  return (site, ⟨skipped, site.brokenLinks⟩)

end Assembly

end Marginalia
