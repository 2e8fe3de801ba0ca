import Marginalia.Text.Basic

/-!
Paths of files inside a project and of pages inside a site: segments with slashes between them. The
file that a path names and its extension are read as a file system reads them: empty and `.` segments
count for nothing, and a path that ends in `..` names no file.
-/

namespace Marginalia.Path
open Marginalia

/-- The segments of a path. -/
def segments (path : String) : List String :=
  (Text.split '/' path.toList).map String.ofList

/-- The path with the given segments. -/
def ofSegments (parts : List String) : String :=
  Text.join "/" parts

/-- The segments that are not empty. -/
def names (path : String) : List String :=
  (segments path).filter (· ≠ "")

/-- The path with forward slashes only and without empty and `.` segments. -/
def normalize (path : String) : String :=
  let slashed := String.ofList (path.toList.map fun c => if c = '\\' then '/' else c)
  ofSegments ((segments slashed).filter fun s => s ≠ "" && s ≠ ".")

/-- The path of the directory that holds the file, empty at the root. -/
def directory (path : String) : String :=
  ofSegments (segments path).dropLast

/-- The last segment. -/
def fileName (path : String) : String :=
  (segments path).getLastD ""

/-- Walks the segments of a relative path from the directory with the names `here`, last one first.
There is no result where the path climbs above the root. -/
def walk : List String → List String → Option (List String)
  | here, [] => some here
  | here, s :: rest =>
    if s = "" || s = "." then walk here rest
    else if s = ".." then
      match here with
      | [] => none
      | _ :: above => walk above rest
    else walk (s :: here) rest

/-- The path that a relative path names when read in a directory. There is none above the root, and
the root itself is no file. -/
def join? (dir relative : String) : Option String :=
  match walk (names dir).reverse (segments relative) with
  | none => none
  | some [] => none
  | some here => some (ofSegments here.reverse)

/-- Drops the names that two lists start with in common. -/
def dropCommon : List String → List String → List String × List String
  | a :: as, b :: bs => if a = b then dropCommon as bs else (a :: as, b :: bs)
  | as, bs => (as, bs)

/-- How a page at `source` writes the address of a page at `target`. -/
def relativeUrl (source target : String) : String :=
  let (up, down) := dropCommon (names (directory source)) (segments target).dropLast
  ofSegments (up.map (fun _ => "..") ++ down ++ [fileName target])

/-- The name of the file that a path leads to. -/
def fileName? (path : String) : Option String :=
  match ((names path).filter (· ≠ ".")).getLast? with
  | some ".." => none
  | found => found

/-- What follows the last dot of a file name. A dot in first place starts no extension. -/
def extensionOf? (name : String) : Option String :=
  match Text.cutAt '.' name.toList.reverse with
  | some (_, []) => none
  | some (ext, _) => some (String.ofList ext.reverse)
  | none => none

/-- The extension of the file that a path leads to. -/
def extension? (path : String) : Option String :=
  (fileName? path).bind extensionOf?

end Marginalia.Path
