import Marginalia.Document.PageMap
import Marginalia.Language.Builtin
import Marginalia.Toml.Document

/-!
Settings of a project: what its site is called and where it goes, which files it leaves out, and
languages beyond the ones known by default.
-/

namespace Marginalia

/-- Settings, as a file gives them. -/
structure Settings where
  name : Option String := none
  /-- The directory that the site is written to. -/
  output : Option String := none
  /-- The source file that becomes the index page; an empty one means that none does. -/
  index : Option String := none
  strip : List String := []
  /-- Patterns of paths to leave out. -/
  exclude : List String := []
  naming : Option PageNaming := none
  jobs : Option Nat := none
  languages : List Language := []
  deriving DecidableEq, Repr

/-- What is wrong with settings. -/
inductive SettingsError where
  /-- They cannot be read at all. -/
  | malformed
  | zeroJobs
  | unnamedLanguage (index : Nat)
  | unclaimedLanguage (name : String)
  | emptyMarker (language marker : String)
  | conflict (conflict : Conflict)
  deriving DecidableEq, Repr

/-- The wording of an error. -/
def SettingsError.message : SettingsError → String
  | .malformed => "failed to parse config: TOML parse error"
  | .zeroJobs => "jobs must be at least 1"
  | .unnamedLanguage index => "language #" ++ Nat.repr index ++ " has an empty name"
  | .unclaimedLanguage name => "language '" ++ name ++ "' claims no extension or file name"
  | .emptyMarker language marker =>
    "language '" ++ language ++ "' has an empty " ++ marker ++ " marker"
  | .conflict c => c.message

namespace Settings
open Toml

/-! ## Reading -/

/-- Text. -/
def text? : Value → Option String
  | .string s => some s
  | _ => none

/-- A flag. -/
def flag? : Value → Option Bool
  | .boolean b => some b
  | _ => none

/-- A count. -/
def count? : Value → Option Nat
  | .integer n => if 0 ≤ n then some n.toNat else none
  | _ => none

/-- The items of a list, however it is written. -/
def items? : Value → Option (List Value)
  | .array items => some items
  | .tables items => some (items.map (.table .header))
  | _ => none

/-- A list of texts. -/
def texts? (v : Value) : Option (List String) := do
  (← items? v).mapM text?

/-- The fields with the given names: those of a table that has no others, or those that a list gives
in order. -/
def fields? (names : List String) (v : Value) : Option (String → Option Value) :=
  match v with
  | .table _ entries =>
    if entries.all fun (k, _) => names.contains k then some fun k => entries.lookup k else none
  | v => (items? v).map fun items k => (names.zip items).lookup k

/-- A field that may be missing. -/
def fieldOr {α : Type} (read : Value → Option α) (absent : α) : Option Value → Option α
  | none => some absent
  | some v => read v

/-- A field that has no value when it is missing. -/
def field? {α : Type} (read : Value → Option α) : Option Value → Option (Option α)
  | none => some none
  | some v => (read v).map some

/-- Is there nothing in the value? -/
def isEmpty : Value → Bool
  | .array [] => true
  | .table _ [] => true
  | _ => false

/-- How pages are named: a word, or a table that holds nothing but an empty value under it. -/
def naming? : Value → Option PageNaming
  | .string word => PageNaming.ofName? word
  | .table _ [(word, v)] => if isEmpty v then PageNaming.ofName? word else none
  | _ => none

/-- A block comment. -/
def blockComment? (v : Value) : Option BlockComment := do
  let get ← fields? ["open", "middle", "close"] v
  return {
    opening := ← (get "open").bind text?
    closing := ← (get "close").bind text?
    middle := ← field? text? (get "middle") }

/-- A language. -/
def language? (v : Value) : Option Language := do
  let get ← fields? ["name", "extensions", "file-names", "line-comments", "block-comments",
    "nested", "highlighter", "ignore-prefix", "fold-prefix", "prose-only"] v
  return {
    name := ← (get "name").bind text?
    extensions := ← fieldOr texts? [] (get "extensions")
    fileNames := ← fieldOr texts? [] (get "file-names")
    lineComments := ← fieldOr texts? [] (get "line-comments")
    blockComments := ← fieldOr (fun v => do (← items? v).mapM blockComment?) []
      (get "block-comments")
    nested := ← fieldOr flag? false (get "nested")
    highlighter := ← fieldOr text? "" (get "highlighter")
    ignoreMark := ← field? text? (get "ignore-prefix")
    foldMark := ← field? text? (get "fold-prefix")
    proseOnly := ← fieldOr flag? false (get "prose-only") }

/-- The settings of a project, languages apart. -/
def project? (v : Value) : Option Settings := do
  let get ← fields? ["name", "output", "index", "strip", "exclude", "naming", "jobs"] v
  return {
    name := ← field? text? (get "name")
    output := ← field? text? (get "output")
    index := ← field? text? (get "index")
    strip := ← fieldOr texts? [] (get "strip")
    exclude := ← fieldOr texts? [] (get "exclude")
    naming := ← field? naming? (get "naming")
    jobs := ← field? count? (get "jobs") }

/-- The settings that a document gives. -/
def ofEntries? (entries : Entries) : Option Settings := do
  let get ← fields? ["project", "language"] (.table .header entries)
  let settings ← fieldOr project? {} (get "project")
  let languages ← fieldOr (fun v => do (← items? v).mapM language?) [] (get "language")
  return { settings with languages }

/-! ## Checking -/

/-- The first empty marker of a block comment. -/
def emptyBlockMarker? (b : BlockComment) : Option String :=
  if b.opening = "" then some "block open"
  else if b.closing = "" then some "block close"
  else if b.middle = some "" then some "block middle"
  else none

/-- The first empty marker of a language. -/
def emptyMarker? (l : Language) : Option String :=
  if l.lineComments.any (· = "") then some "line comment"
  else match l.blockComments.findSome? emptyBlockMarker? with
    | some marker => some marker
    | none =>
      if l.ignoreMark = some "" then some "ignore prefix"
      else if l.foldMark = some "" then some "fold prefix"
      else none

/-- What is wrong with a language, which is the one with this number. -/
def languageError? (index : Nat) (l : Language) : Option SettingsError :=
  if Text.allBlank l.name.toList then some (.unnamedLanguage index)
  else if l.extensions.isEmpty && l.fileNames.isEmpty then some (.unclaimedLanguage l.name)
  else (emptyMarker? l).map (.emptyMarker l.name)

/-- The first thing that is wrong with languages, counted from `index`. -/
def languagesError? (index : Nat) : List Language → Option SettingsError
  | [] => none
  | l :: ls =>
    match languageError? index l with
    | some e => some e
    | none => languagesError? (index + 1) ls

/-- What is wrong with settings. Their languages may take the place of known ones, but not of each
other. -/
def error? (s : Settings) : Option SettingsError :=
  if s.jobs = some 0 then some .zeroJobs
  else match languagesError? 0 s.languages with
    | some e => some e
    | none =>
      match s.languages.foldlM Catalogue.register {} with
      | .ok _ => none
      | .error c => some (.conflict c)

/-- Reads and checks settings. -/
def parse (text : String) : Except SettingsError Settings :=
  match (Toml.parse? text).bind ofEntries? with
  | none => .error .malformed
  | some s =>
    match s.error? with
    | some e => .error e
    | none => .ok s

/-! ## Using -/

/-- The language with a highlighter, which is its name in lower case unless it has one. -/
def withHighlighter (l : Language) : Language :=
  if l.highlighter = "" then { l with highlighter := Text.lower l.name } else l

/-- The known languages with those of the settings over them. -/
def catalogue (s : Settings) : Catalogue :=
  s.languages.foldl (fun c l => c.layer (withHighlighter l)) Catalogue.builtin

/-- Where pages go. -/
def pageMap (s : Settings) : PageMap where
  strip := s.strip
  naming := s.naming.getD .append
  index :=
    match s.index with
    | none => some defaultIndex
    | some "" => none
    | some index => some (Path.normalize index)

end Settings

end Marginalia
