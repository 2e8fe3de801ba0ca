import Marginalia.Site.Basic

/-!
Where a document stands in its site: the directories above it, its neighbours, and its place among
the files of its directory.
-/

namespace Marginalia.Site

/-- A directory above a file. -/
structure Breadcrumb where
  name : String
  path : String
  deriving DecidableEq, Repr

/-- The way to a document and around it. -/
structure Navigation where
  breadcrumbs : List Breadcrumb
  previous : Option Document
  next : Option Document
  /-- The place among the files of its directory, counted from one. -/
  position : Nat
  /-- How many files its directory holds. -/
  siblings : Nat

/-- The directories with the given names, one inside the other, below `path`. -/
def breadcrumbsFrom (path : String) : List String → List Breadcrumb
  | [] => []
  | name :: rest =>
    let here := if path = "" then name else path ++ "/" ++ name
    ⟨name, here⟩ :: breadcrumbsFrom here rest

/-- The values of the files that stand right in a directory. -/
def ownFiles (c : Contents Nat) : List Nat :=
  c.children.filterMap fun child =>
    match child with
    | .file _ n => some n
    | .directory .. => none

/-- The way around the document of a source file. -/
def navigation? (s : Site) (source : String) : Option Navigation := do
  let index ← s.position? source
  let d ← s.documents[index]?
  let siblings := ((s.contents.directory? d.directory).map ownFiles).getD []
  return {
    breadcrumbs := breadcrumbsFrom "" (Path.names d.directory)
    previous := if index = 0 then none else s.documents[index - 1]?
    next := s.documents[index + 1]?
    position := ((siblings.findIdx? (· = index)).map (· + 1)).getD 0
    siblings := siblings.length }

end Marginalia.Site
