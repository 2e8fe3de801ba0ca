import Marginalia.Language.Basic
import Marginalia.Path.Basic

/-!
Catalogues of languages. Each extension and each file name belongs to one language: the last one
that claimed it. A language is known by its number of entry, so two equal descriptions stay apart.
-/

namespace Marginalia

/-- A language with its number of entry. -/
structure Entry where
  number : Nat
  language : Language
  deriving DecidableEq, Repr

/-- Languages in order of entry, and who holds each extension and file name. -/
structure Catalogue where
  /-- The number of the next entry. -/
  next : Nat := 0
  entries : List Entry := []
  extensions : List (String × Entry) := []
  fileNames : List (String × Entry) := []

/-- Why a language cannot enter a catalogue. -/
inductive Conflict where
  | extension (extension holder newcomer : String)
  | fileName (fileName holder newcomer : String)
  deriving DecidableEq, Repr

/-- The wording of a conflict. -/
def Conflict.message : Conflict → String
  | .extension e holder newcomer =>
    "extension '" ++ e ++ "' is claimed by both '" ++ holder ++ "' and '" ++ newcomer ++ "'"
  | .fileName f holder newcomer =>
    "file name '" ++ f ++ "' is claimed by both '" ++ holder ++ "' and '" ++ newcomer ++ "'"

namespace Catalogue

/-- Hands the claims to one entry. -/
def assign (claims : List (String × Entry)) (keys : List String) (e : Entry) :
    List (String × Entry) :=
  keys.foldl (fun held k => (k, e) :: held.filter (·.1 ≠ k)) claims

/-- Enters a language, which takes over all that it claims. -/
def insert (c : Catalogue) (l : Language) : Catalogue :=
  let e : Entry := { number := c.next, language := l }
  { next := c.next + 1
    entries := c.entries ++ [e]
    extensions := assign c.extensions l.extensions e
    fileNames := assign c.fileNames l.fileNames e }

/-- Does the entry hold an extension or a file name? -/
def holdsClaim (c : Catalogue) (e : Entry) : Bool :=
  c.extensions.any (·.2.number = e.number) || c.fileNames.any (·.2.number = e.number)

/-- The first claim of a list that somebody holds, with the holder. -/
def firstHeld (claims : List (String × Entry)) : List String → Option (String × Entry)
  | [] => none
  | k :: keys =>
    match claims.lookup k with
    | some e => some (k, e)
    | none => firstHeld claims keys

/-- Enters a language that claims nothing anybody holds. The catalogue after the call stands beside
the answer, also where that is a conflict. -/
def enter (c : Catalogue) (l : Language) : Except Conflict Unit × Catalogue :=
  match firstHeld c.extensions l.extensions with
  | some (k, e) => (.error (.extension k e.language.name l.name), c)
  | none =>
    match firstHeld c.fileNames l.fileNames with
    | some (k, e) => (.error (.fileName k e.language.name l.name), c)
    | none => (.ok (), c.insert l)

/-- The catalogue with the language in it, or the conflict. -/
def register (c : Catalogue) (l : Language) : Except Conflict Catalogue :=
  (c.enter l).1.map fun _ => (c.enter l).2

/-- Enters a language over the others. Those that hold nothing any more leave. -/
def layer (c : Catalogue) (l : Language) : Catalogue :=
  let c := c.insert l
  { c with entries := c.entries.filter c.holdsClaim }

/-- The language that holds an extension. -/
def byExtension? (c : Catalogue) (extension : String) : Option Language :=
  (c.extensions.lookup extension).map (·.language)

/-- The language that holds a file name. -/
def byFileName? (c : Catalogue) (fileName : String) : Option Language :=
  (c.fileNames.lookup fileName).map (·.language)

/-- The language of the file that a path leads to: by its whole name, else by its extension. -/
def byPath? (c : Catalogue) (path : String) : Option Language := do
  let name ← Path.fileName? path
  match c.byFileName? name with
  | some l => return l
  | none => c.byExtension? (← Path.extensionOf? name)

/-- How many languages there are. -/
def size (c : Catalogue) : Nat :=
  c.entries.length

/-- The languages sorted by name, whatever its case. -/
def languages (c : Catalogue) : List Language :=
  (c.entries.map (·.language)).mergeSort fun a b => Text.lower a.name ≤ Text.lower b.name

end Catalogue

end Marginalia
