import Marginalia.Document.Basic
import Marginalia.Report
import Marginalia.Site.Contents

/-!
Sites: documents in the order of their contents. No two documents share a source path or a page, and
each has an anchor that is safe everywhere and differs for different paths.
-/

namespace Marginalia

/-- Documents that make a site. -/
structure Site where
  name : String
  /-- The documents in the order of the contents. -/
  documents : List Document
  /-- Directories and files; a file carries the place of its document. -/
  contents : Contents Nat

/-- Why documents make no site. -/
inductive SiteError where
  | empty
  | sharedSource (path : String)
  | sharedPage (page first second : String)
  deriving DecidableEq, Repr

/-- The wording of an error. -/
def SiteError.message : SiteError → String
  | .empty => "no source files to document"
  | .sharedSource path => "source path '" ++ path ++ "' appears more than once"
  | .sharedPage page first second =>
    "'" ++ first ++ "' and '" ++ second ++ "' would both be written to '" ++ page ++ "'"

namespace Site

/-- How a character of a path is written in an anchor. -/
def anchorChar (c : Char) : List Char :=
  if c.isAlphanum || c = '.' then [c]
  else if c = '/' then ['-']
  else '_' :: Nat.toDigits 16 c.toNat ++ ['_']

/-- The anchor of the file at a path: letters, digits and dots stay, a slash becomes a dash, and any
other character its code point between underscores. -/
def fileAnchor (path : String) : String :=
  String.ofList (path.toList.flatMap anchorChar)

/-- Looks for a document that shares its source path or its page with one of those `before` it. -/
def firstClash (before : List Document) : List Document → Option SiteError
  | [] => none
  | d :: rest =>
    if before.any (·.source = d.source) then some (.sharedSource d.source)
    else match before.find? (·.page = d.page) with
      | some first => some (.sharedPage d.page first.source d.source)
      | none => firstClash (d :: before) rest

/-- The new place of each of `count` things. `order` has their old places in the new order. -/
def newPlaces (count : Nat) (order : List Nat) : List Nat :=
  order.zipIdx.foldl (fun places (old, new) => places.set old new) (List.replicate count 0)

/-- What stands in the slots of `order`. A thing that is taken leaves its slot empty. -/
def takeOut {α : Type} (slots : List (Option α)) : (order : List Nat) → List α
  | [] => []
  | i :: order =>
    match slots[i]?.join with
    | some x => x :: takeOut (slots.set i none) order
    | none => takeOut slots order

/-- Puts documents in order. The tree is built with their places, which are then renewed. -/
def arrange (name : String) (documents : List Document) : Site :=
  let tree := Contents.ofFiles (documents.zipIdx.map fun (d, i) => (d.source, i))
  let order := tree.values
  let places := newPlaces documents.length order
  { name
    documents := takeOut (documents.map some) order
    contents := tree.map fun old => places.getD old 0 }

/-- The site of documents. -/
def build (name : String) (documents : List Document) : Except SiteError Site :=
  match firstClash [] documents with
  | some e => .error e
  | none => .ok (arrange name documents)

/-- How many documents there are. -/
def size (s : Site) : Nat :=
  s.documents.length

/-- The place of a document in the contents. -/
def position? (s : Site) (source : String) : Option Nat :=
  s.documents.findIdx? (·.source = source)

/-- The document of a source file. -/
def document? (s : Site) (source : String) : Option Document :=
  s.documents.find? (·.source = source)

/-- The anchor of a source file. -/
def anchor? (s : Site) (source : String) : Option String :=
  (s.document? source).map fun d => fileAnchor d.source

/-- The document that the site opens with. -/
def index? (s : Site) : Option Document :=
  s.documents.find? (·.page = indexPage)

/-- Where a link leads. -/
structure Target where
  source : String
  page : String
  anchor : String
  fragment : Option String
  deriving DecidableEq, Repr

/-- The document that a path leads to from a file. -/
def follow? (s : Site) (source path : String) : Option Document :=
  (Path.join? (Path.directory source) path).bind s.document?

/-- Where a link in a file leads. -/
def resolve? (s : Site) (source destination : String) : Option Target := do
  let r ← Outline.parseReference destination 0
  let d ← s.follow? source r.path
  return ⟨d.source, d.page, fileAnchor d.source, r.fragment⟩

/-- The address of a link in a file, as its page writes it. -/
def href? (s : Site) (source destination : String) : Option String := do
  let target ← s.resolve? source destination
  let origin ← s.document? source
  let address := Path.relativeUrl origin.page target.page
  return match target.fragment with
    | some fragment => address ++ "#" ++ fragment
    | none => address

/-- The links of a document that lead nowhere. -/
def brokenIn (s : Site) (d : Document) : List BrokenLink :=
  (d.references.filter fun r => (s.follow? d.source r.path).isNone).map fun r =>
    ⟨d.source, r.line, r.raw⟩

/-- The links of the site that lead nowhere. -/
def brokenLinks (s : Site) : List BrokenLink :=
  s.documents.flatMap s.brokenIn

end Site

end Marginalia
