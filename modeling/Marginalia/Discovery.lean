import Marginalia.Files.Tree
import Marginalia.Path.Basic

/-!
Finding the files of a project below the places that a user names. Hidden files, files that are
excluded and what lies in the directory of the site are left out.
-/

namespace Marginalia.Discovery
open Files

/-- A file that was found. -/
structure Found where
  path : RealPath
  /-- Its path inside the project. -/
  relative : String
  deriving DecidableEq, Repr

/-- What is left out. -/
structure Filter where
  /-- Is the file or directory with this path inside the project excluded? -/
  excluded : String → Bool := fun _ => false
  /-- A directory that is never entered. -/
  skipped : Option RealPath := none

/-- Names of directories that are never entered. -/
def skippedNames : List String :=
  ["target", "node_modules"]

/-- Is the name hidden? -/
def isHidden (name : String) : Bool :=
  name.toList.head? = some '.'

/-- The path of an entry inside a directory, of which the empty path is the root. -/
def below (dir name : String) : String :=
  if dir = "" then name else dir ++ "/" ++ name

/-- May a directory be entered? -/
def enters (f : Filter) (path : RealPath) (name : String) : Bool :=
  !(skippedNames.contains name || f.skipped = some (path ++ [name]))

/-- Puts what was found under names in the order of the names. -/
def inOrder (found : List (String × List Found)) : List Found :=
  (found.mergeSort fun a b => a.1 ≤ b.1).flatMap (·.2)

mutual

/-- What is found at a path: a file, or all that a directory holds. -/
def walk {α : Type} (f : Filter) (path : RealPath) (relative : String) :
    FileTree α → List Found
  | .file _ => [⟨path, relative⟩]
  | .directory entries => inOrder (walkEntries f path relative entries)

/-- What is found under each entry of a directory. -/
def walkEntries {α : Type} (f : Filter) (path : RealPath) (relative : String) :
    List (String × FileTree α) → List (String × List Found)
  | [] => []
  | (name, t) :: rest =>
    let others := walkEntries f path relative rest
    if isHidden name || f.excluded (below relative name) then others
    else if t.isDirectory && !enters f path name then others
    else (name, walk f (path ++ [name]) (below relative name) t) :: others

end

/-- A place where files are looked for: a file or a directory. -/
structure Place (α : Type) where
  path : RealPath
  tree : FileTree α

/-- The directory of a place. -/
def Place.directory {α : Type} (p : Place α) : RealPath :=
  if p.tree.isDirectory then p.path else p.path.dropLast

/-- The names that two paths start with in common. -/
def commonStart : RealPath → RealPath → RealPath
  | a :: as, b :: bs => if a = b then a :: commonStart as bs else []
  | _, _ => []

/-- The deepest directory that holds all places. -/
def base {α : Type} : List (Place α) → RealPath
  | [] => []
  | p :: rest => rest.foldl (fun dir q => commonStart dir q.directory) p.directory

/-- What is found at a place, given the directory that paths count from. -/
def look {α : Type} (f : Filter) (base : RealPath) (p : Place α) : List Found :=
  let relative := Path.ofSegments (p.path.drop base.length)
  if !p.tree.isDirectory && f.excluded relative then []
  else walk f p.path relative p.tree

/-- Keeps the first of several files with one path inside the project. -/
def firstOfEach (found : List Found) : List Found :=
  found.foldl (fun kept x => if kept.any (·.relative = x.relative) then kept else kept ++ [x]) []

/-- All that is found at several places. Paths count from the deepest directory that holds all. -/
def collect {α : Type} (f : Filter) (places : List (Place α)) : List Found :=
  firstOfEach (places.flatMap (look f (base places)))

end Marginalia.Discovery
