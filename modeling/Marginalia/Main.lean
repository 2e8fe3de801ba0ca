import Marginalia.Command.Run

/-!
The command on the files of this machine.
-/

namespace Marginalia.Files

/-- An error of the machine as a file error. -/
def FileError.ofMachine (e : IO.Error) : FileError :=
  match e with
  | .noFileOrDirectory .. => .notFound
  | .alreadyExists .. => .exists
  | .inappropriateType _ code _ => if code = 21 then .isDirectory else .notDirectory
  | e => .other e.toString

/-- The result of an action, or the file error that it ended with. -/
def attempt {α : Type} (action : IO α) : IO (Except FileError α) := do
  try
    return .ok (← action)
  catch e =>
    return .error (.ofMachine e)

/-- What stands at a path, without what the files hold. -/
partial def listing (path : String) : IO (FileTree Unit) := do
  let real ← IO.FS.realPath path
  if ← real.isDir then
    let names := (← real.readDir).toList.map (·.fileName)
    return .directory (← names.mapM fun name => return (name, ← listing (joinPath path name)))
  else
    return .file ()

/-- The text of a file. -/
def readText (path : String) : IO (Except FileError String) := do
  match ← attempt (IO.FS.readBinFile path) with
  | .ok bytes => return (String.fromUTF8? bytes).elim (.error .notText) .ok
  | .error e => return .error e

/-- Access to the files of this machine. -/
def machine : Host IO where
  realPath path := attempt do
    return (← IO.FS.realPath path).components.filter (· ≠ "")
  tree real := attempt (listing real.text)
  read := readText
  makeDirectories path := attempt (IO.FS.createDirAll path)
  write path text := attempt (IO.FS.writeFile path text)

end Marginalia.Files

open Marginalia in
def main (arguments : List String) : IO UInt32 := do
  let outcome ← Command.run Files.machine arguments
  IO.print outcome.out
  IO.eprint outcome.err
  return outcome.code.toUInt32
