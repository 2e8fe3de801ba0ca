import Marginalia.Files.Tree

/-!
What a program may do with files, and what can go wrong. Paths are written as a user writes them; they
count from the directory that the program runs in.
-/

namespace Marginalia.Files

/-- Why a file could not be reached, read or written. -/
inductive FileError where
  | notFound
  | exists
  | notDirectory
  | isDirectory
  /-- The file is no text. -/
  | notText
  /-- The path holds a character that no path may hold. -/
  | badPath
  | other (reason : String)
  deriving DecidableEq, Repr

/-- The wording of an error. -/
def FileError.message : FileError → String
  | .notFound => "No such file or directory (os error 2)"
  | .exists => "File exists (os error 17)"
  | .notDirectory => "Not a directory (os error 20)"
  | .isDirectory => "Is a directory (os error 21)"
  | .notText => "stream did not contain valid UTF-8"
  | .badPath => "file name contained an unexpected NUL byte"
  | .other reason => reason

/-- Access to files. -/
structure Host (m : Type → Type) where
  /-- The real path of what stands at a path. -/
  realPath : String → m (Except FileError RealPath)
  /-- What stands at a real path, without what the files hold. -/
  tree : RealPath → m (Except FileError (FileTree Unit))
  /-- The text of a file. -/
  read : String → m (Except FileError String)
  /-- Makes a directory and those above it that are missing. -/
  makeDirectories : String → m (Except FileError Unit)
  /-- Writes a file, which may be there already. -/
  write : (path text : String) → m (Except FileError Unit)

/-- A real path as text. -/
def RealPath.text (path : RealPath) : String :=
  "/" ++ String.intercalate "/" path

/-- A path below a directory as text. -/
def joinPath (dir path : String) : String :=
  if dir = "" || dir.toList.getLast? = some '/' then dir ++ path else dir ++ "/" ++ path

/-- Is there a file at the path? -/
def Host.isFile {m : Type → Type} [Monad m] (h : Host m) (path : String) : m Bool := do
  match ← h.realPath path with
  | .error _ => return false
  | .ok real =>
    match ← h.tree real with
    | .ok t => return !t.isDirectory
    | .error _ => return false

end Marginalia.Files
