import Marginalia.Site.Basic

/-!
The search index of a site: an entry for each file and one for each heading, written as JSON.
-/

namespace Marginalia.Page

/-- What an entry leads to. -/
inductive SearchKind where
  | file
  | heading
  deriving DecidableEq, Repr

/-- The word for a kind. -/
def SearchKind.name : SearchKind → String
  | .file => "file"
  | .heading => "heading"

/-- An entry of the search index. -/
structure SearchEntry where
  /-- The title of the file, or the text of the heading. -/
  name : String
  kind : SearchKind
  /-- The source path of the file. -/
  path : String
  /-- The language of a file, or the title of the file that has the heading. -/
  description : String
  /-- An address that starts at the root of the site. -/
  link : String
  deriving DecidableEq, Repr

/-- The entries of a document. -/
def searchEntries (d : Document) : List SearchEntry :=
  ⟨d.title, .file, d.source, d.language.name, d.page⟩ ::
    d.headings.map fun h => ⟨h.text, .heading, d.source, d.title, d.page ++ "#" ++ h.anchor⟩

/-- The entries of a site, in the order of its contents. -/
def searchIndex (s : Site) : List SearchEntry :=
  s.documents.flatMap searchEntries

namespace Json

/-- A hexadecimal digit in lower case. -/
def hexDigit (n : Nat) : Char :=
  if n < 10 then Char.ofNat (48 + n) else Char.ofNat (87 + n)

/-- How a character is written in a JSON string: quotes, backslashes and control characters are
escaped, all else stands for itself. -/
def escapeChar (c : Char) : List Char :=
  if c = '"' then ['\\', '"']
  else if c = '\\' then ['\\', '\\']
  else if c = '\x08' then ['\\', 'b']
  else if c = '\x0c' then ['\\', 'f']
  else if c = '\n' then ['\\', 'n']
  else if c = '\r' then ['\\', 'r']
  else if c = '\t' then ['\\', 't']
  else if c.toNat < 0x20 then
    ['\\', 'u', '0', '0', hexDigit (c.toNat / 16), hexDigit (c.toNat % 16)]
  else [c]

/-- A JSON string. -/
def string (s : String) : String :=
  String.ofList ('"' :: s.toList.flatMap escapeChar ++ ['"'])

/-- A JSON object with the given members. -/
def object (members : List (String × String)) : String :=
  "\x7b" ++ Text.join "," (members.map fun (key, value) => string key ++ ":" ++ string value) ++
    "\x7d"

/-- A JSON array of values. -/
def array (values : List String) : String :=
  "[" ++ Text.join "," values ++ "]"

end Json

/-- An entry as JSON, with short keys. -/
def SearchEntry.json (e : SearchEntry) : String :=
  Json.object [
    ("n", e.name), ("k", e.kind.name), ("p", e.path), ("d", e.description), ("l", e.link)]

/-- The search index of a site as JSON. -/
def searchIndexJson (s : Site) : String :=
  Json.array ((searchIndex s).map SearchEntry.json)

end Marginalia.Page
