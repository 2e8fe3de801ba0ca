import Marginalia.Path.Basic
import Marginalia.Text.LowerCase

/-!
The contents of a site: a tree of directories with the files in them. Directories come first, then
names by the alphabet whatever their case; a walk through the tree gives the order of the files.
-/

namespace Marginalia

/-- A directory or a file, which carries a value. -/
inductive Contents (α : Type) where
  | file (name : String) (value : α)
  | directory (name path : String) (children : List (Contents α))

namespace Contents

variable {α : Type}

/-- The last segment of the path. -/
def name : Contents α → String
  | .file name _ => name
  | .directory name _ _ => name

/-- Is it a directory? -/
def isDirectory : Contents α → Bool
  | .file .. => false
  | .directory .. => true

/-- What a directory holds. -/
def children : Contents α → List (Contents α)
  | .file .. => []
  | .directory _ _ children => children

/-- Changes what the first directory of the given name holds. -/
def update (dir : String) (f : List (Contents α) → List (Contents α)) :
    List (Contents α) → Option (List (Contents α))
  | [] => none
  | .file name value :: rest => (update dir f rest).map (.file name value :: ·)
  | .directory name path children :: rest =>
    if name = dir then some (.directory name path (f children) :: rest)
    else (update dir f rest).map (.directory name path children :: ·)

/-- Adds a file at the path with the given segments to what the directory at `path` holds, with the
directories on the way to it. -/
def insert (path : String) : List String → α → List (Contents α) → List (Contents α)
  | [], _, held => held
  | [last], value, held => held ++ [.file last value]
  | dir :: rest, value, held =>
    let below := if path = "" then dir else path ++ "/" ++ dir
    match update dir (insert below rest value) held with
    | some held => held
    | none => held ++ [.directory dir below (insert below rest value [])]

/-- Does `a` come before `b`, or equal it? Directories first, then by name in lower case, then by
name. -/
def precedes (a b : Contents α) : Bool :=
  if a.isDirectory ≠ b.isDirectory then a.isDirectory
  else
    let x := Text.lower a.name
    let y := Text.lower b.name
    if x = y then a.name ≤ b.name else x < y

mutual

/-- Puts what a directory holds in order, all the way down. -/
def sort : Contents α → Contents α
  | .file name value => .file name value
  | .directory name path children => .directory name path ((sortAll children).mergeSort precedes)

/-- Puts each of several in order. -/
def sortAll : List (Contents α) → List (Contents α)
  | [] => []
  | c :: cs => c.sort :: sortAll cs

end

mutual

/-- The values of the files, in order. -/
def values : Contents α → List α
  | .file _ value => [value]
  | .directory _ _ children => valuesAll children

/-- The values of the files of several. -/
def valuesAll : List (Contents α) → List α
  | [] => []
  | c :: cs => c.values ++ valuesAll cs

end

mutual

/-- The tree with other values in its files. -/
def map {β : Type} (f : α → β) : Contents α → Contents β
  | .file name value => .file name (f value)
  | .directory name path children => .directory name path (mapAll f children)

/-- Several trees with other values in their files. -/
def mapAll {β : Type} (f : α → β) : List (Contents α) → List (Contents β)
  | [] => []
  | c :: cs => c.map f :: mapAll f cs

end

/-- The directory that the segments lead to. -/
def descend : Contents α → List String → Option (Contents α)
  | c, [] => some c
  | c, s :: rest =>
    match c.children.find? fun child => child.isDirectory && child.name = s with
    | some child => child.descend rest
    | none => none

/-- The directory at a path; the empty path is the root. -/
def directory? (c : Contents α) (path : String) : Option (Contents α) :=
  if path = "" then (if c.isDirectory then some c else none)
  else c.descend (Path.segments path)

/-- The tree of files at the given paths, in order. -/
def ofFiles (files : List (String × α)) : Contents α :=
  let held := files.foldl (fun held (path, value) => insert "" (Path.segments path) value held) []
  (Contents.directory "" "" held).sort

end Contents

end Marginalia
