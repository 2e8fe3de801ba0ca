/-!
Trees of files. A file carries a value, which is what it holds or nothing of interest.
-/

namespace Marginalia.Files

/-- The names on the way from the root of a file system to a file or directory. -/
abbrev RealPath := List String

/-- A file or a directory. -/
inductive FileTree (α : Type) where
  | file (value : α)
  | directory (entries : List (String × FileTree α))

namespace FileTree

variable {α β : Type}

/-- Is it a directory? -/
def isDirectory : FileTree α → Bool
  | .file _ => false
  | .directory _ => true

/-- What a directory holds. -/
def entries : FileTree α → List (String × FileTree α)
  | .file _ => []
  | .directory entries => entries

/-- What stands at a path. -/
def at? : FileTree α → RealPath → Option (FileTree α)
  | t, [] => some t
  | t, name :: path =>
    match t.entries.lookup name with
    | some child => child.at? path
    | none => none

/-- The entries with one replaced or added. -/
def put (name : String) (t : FileTree α) : List (String × FileTree α) → List (String × FileTree α)
  | [] => [(name, t)]
  | (n, u) :: rest => if n = name then (n, t) :: rest else (n, u) :: put name t rest

/-- The tree with something put at a path. Directories on the way are made where nothing stands. -/
def insert (t : FileTree α) : RealPath → FileTree α → FileTree α
  | [], new => new
  | name :: path, new =>
    let child := (t.entries.lookup name).getD (.directory [])
    .directory (put name (child.insert path new) t.entries)

mutual

/-- The tree with other values. -/
def map (f : α → β) : FileTree α → FileTree β
  | .file value => .file (f value)
  | .directory entries => .directory (mapEntries f entries)

/-- Entries with other values. -/
def mapEntries (f : α → β) : List (String × FileTree α) → List (String × FileTree β)
  | [] => []
  | (name, t) :: rest => (name, t.map f) :: mapEntries f rest

end

mutual

/-- All files, each with its path below `path`. -/
def files (path : RealPath) : FileTree α → List (RealPath × α)
  | .file value => [(path, value)]
  | .directory entries => entryFiles path entries

/-- All files of entries. -/
def entryFiles (path : RealPath) : List (String × FileTree α) → List (RealPath × α)
  | [] => []
  | (name, t) :: rest => t.files (path ++ [name]) ++ entryFiles path rest

end

end FileTree

end Marginalia.Files
