import Marginalia.Path.Basic
import Marginalia.Text.Basic

/-!
Where the page of a source file goes: leading directories may be left out, and the page's name is
made from the file's.
-/

namespace Marginalia

/-- How the name of a page is made. -/
inductive PageNaming where
  /-- The extension of pages is added to the file name. -/
  | append
  /-- The extension of pages replaces the file's. -/
  | replace
  deriving DecidableEq, Repr

namespace PageNaming

/-- The naming that a word stands for. -/
def ofName? : String → Option PageNaming
  | "append" => some .append
  | "replace" => some .replace
  | _ => none

/-- The word for a naming. -/
def name : PageNaming → String
  | .append => "append"
  | .replace => "replace"

/-- What is said of a word that stands for no naming. -/
def unknown (word : String) : String :=
  "unknown output naming '" ++ word ++ "' (expected append or replace)"

end PageNaming

/-- The page that a site opens with. -/
def indexPage : String :=
  "index.html"

/-- The source file that becomes the index page unless settings name another. -/
def defaultIndex : String :=
  "README.md"

/-- Where pages go. -/
structure PageMap where
  /-- Leading directories that are left out; the first one that fits counts. -/
  strip : List String := []
  naming : PageNaming := .append
  /-- The source file that becomes the index page. -/
  index : Option String := some defaultIndex
  deriving DecidableEq, Repr

namespace PageMap

/-- Without the slashes at both ends. -/
def trimSlashes (s : String) : String :=
  String.ofList (Text.dropWhileEnd (· = '/') (s.toList.dropWhile (· = '/')))

/-- What is left of a path below a directory. -/
def below? (dir path : String) : Option String :=
  if dir = "" then none
  else match Text.after? dir.toList path.toList with
    | some ('/' :: c :: rest) => some (String.ofList (c :: rest))
    | _ => none

/-- The path without the first leading directory that fits. -/
def stripped (strip : List String) (source : String) : String :=
  (strip.findSome? fun dir => below? (trimSlashes dir) source).getD source

/-- The name up to its last dot, unless that is its first character. -/
def stem (name : String) : String :=
  match Text.cutAt '.' name.toList.reverse with
  | some (_, c :: front) => String.ofList (c :: front).reverse
  | _ => name

/-- The path with its extension replaced by nothing. -/
def withoutExtension (path : String) : String :=
  Path.ofSegments ((Path.segments path).dropLast ++ [stem (Path.fileName path)])

/-- The path of the page of a source file. -/
def page (m : PageMap) (source : String) : String :=
  if m.index = some source then indexPage
  else
    let rest := stripped m.strip source
    match m.naming with
    | .append => rest ++ ".html"
    | .replace => withoutExtension rest ++ ".html"

/-- The map with another index, whose path is normalized. -/
def withIndex (m : PageMap) (index : Option String) : PageMap :=
  { m with index := index.map Path.normalize }

end PageMap

end Marginalia
