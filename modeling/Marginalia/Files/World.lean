import Marginalia.Files.Host
import Marginalia.Path.Basic

/-!
A file system as a value: a tree of files and the directory that a program runs in. It has no links,
and everything may be read and written.
-/

namespace Marginalia.Files

/-- A file system. -/
structure World where
  root : FileTree ByteArray
  /-- The directory that paths count from. -/
  here : RealPath

namespace World

/-- Follows the segments of a path. Only a directory may be followed by anything. -/
def follow (w : World) : RealPath → List String → Except FileError RealPath
  | dir, [] => .ok dir
  | dir, s :: rest =>
    match w.root.at? dir with
    | none => .error .notFound
    | some (.file _) => .error .notDirectory
    | some (.directory entries) =>
      if s = "" || s = "." then w.follow dir rest
      else if s = ".." then w.follow dir.dropLast rest
      else if (entries.lookup s).isSome then w.follow (dir ++ [s]) rest
      else .error .notFound

/-- Where the segments of a path start. -/
def origin (w : World) (path : String) : RealPath :=
  if path.toList.head? = some '/' then [] else w.here

/-- Can no path be written like this? -/
def isBad (path : String) : Bool :=
  path.toList.contains '\x00'

/-- The real path of what stands at a path. -/
def realPath (w : World) (path : String) : Except FileError RealPath :=
  if isBad path then .error .badPath
  else if path = "" then .error .notFound
  else w.follow (w.origin path) (Path.segments path)

/-- What stands at a path. -/
def find (w : World) (path : String) : Except FileError (FileTree ByteArray) := do
  let real ← w.realPath path
  match w.root.at? real with
  | some t => return t
  | none => throw .notFound

/-- Is there a directory at the path? -/
def isDirectory (w : World) (path : String) : Bool :=
  match w.find path with
  | .ok t => t.isDirectory
  | .error _ => false

/-- The text of a file. -/
def read (w : World) (path : String) : Except FileError String := do
  match ← w.find path with
  | .directory _ => throw .isDirectory
  | .file bytes =>
    match String.fromUTF8? bytes with
    | some text => return text
    | none => throw .notText

/-- The directory that a path leads into, and the last name of the path. -/
def parent (w : World) (path : String) : Except FileError (RealPath × Option String) := do
  if isBad path then throw .badPath
  if path = "" then throw .notFound
  let segments := Path.segments path
  let dir ← w.follow (w.origin path) segments.dropLast
  match w.root.at? dir with
  | some (.directory _) =>
    let last := segments.getLastD ""
    return (dir, if last = "" || last = "." || last = ".." then none else some last)
  | some (.file _) => throw .notDirectory
  | none => throw .notFound

/-- Without the slashes at the end, unless there is nothing else. -/
def trimSlashes (path : String) : String :=
  match (path.toList.reverse.dropWhile (· = '/')).reverse with
  | [] => if path = "" then "" else "/"
  | cs => String.ofList cs

/-- Makes one directory. -/
def makeDirectory (w : World) (path : String) : Except FileError World := do
  match ← w.parent (trimSlashes path) with
  | (_, none) => throw .exists
  | (dir, some name) =>
    if (w.root.at? (dir ++ [name])).isSome then throw .exists
    return { w with root := w.root.insert (dir ++ [name]) (.directory []) }

/-- The names that a path consists of; a dot counts in first place only. -/
def components (path : String) : List String :=
  match Path.segments path with
  | "." :: rest => "." :: rest.filter fun s => s ≠ "" && s ≠ "."
  | segments => segments.filter fun s => s ≠ "" && s ≠ "."

/-- The directories above a path, the nearest one first. -/
def above (path : String) : List String :=
  let root := if path.toList.head? = some '/' then "/" else ""
  let names := components path
  ((List.range names.length).drop 1).reverse.map fun n =>
    root ++ Path.ofSegments (names.take n)

/-- Makes the nearest directory that can be made, and gives those that are still missing below it,
from the top down. -/
def makeNearest (w : World) (missing : List String) :
    List String → Except FileError (World × List String)
  | [] => .ok (w, missing)
  | dir :: rest =>
    match w.makeDirectory dir with
    | .ok w => .ok (w, missing)
    | .error .notFound => w.makeNearest (dir :: missing) rest
    | .error .exists => if w.isDirectory dir then .ok (w, missing) else .error .exists
    | .error e => .error e

/-- Makes directories one after the other. -/
def makeEach (w : World) : List String → Except FileError World
  | [] => .ok w
  | dir :: rest =>
    match w.makeDirectory dir with
    | .ok w => w.makeEach rest
    | .error e => if w.isDirectory dir then w.makeEach rest else .error e

/-- Makes a directory and those above it that are missing. -/
def makeDirectories (w : World) (path : String) : Except FileError World :=
  if components path = [] then .ok w
  else do
    let (w, missing) ← w.makeNearest [] (path :: above path)
    w.makeEach missing

/-- Writes a file. -/
def write (w : World) (path text : String) : Except FileError World := do
  match ← w.parent path with
  | (_, none) => throw .isDirectory
  | (dir, some name) =>
    match w.root.at? (dir ++ [name]) with
    | some (.directory _) => throw .isDirectory
    | _ => return { w with root := w.root.insert (dir ++ [name]) (.file text.toUTF8) }

/-- Keeps the file system that an action leaves behind. -/
def act (f : World → Except FileError World) : StateM World (Except FileError Unit) := do
  match f (← get) with
  | .ok w =>
    set w
    return .ok ()
  | .error e => return .error e

/-- Access to the files of a file system. -/
def host : Host (StateM World) where
  realPath path := return (← get).realPath path
  tree real := do
    match (← get).root.at? real with
    | some t => return .ok (t.map fun _ => ())
    | none => return .error .notFound
  read path := return (← get).read path
  makeDirectories path := act (·.makeDirectories path)
  write path text := act (·.write path text)

end World

end Marginalia.Files
