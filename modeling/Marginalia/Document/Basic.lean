import Marginalia.Document.PageMap
import Marginalia.Outline.Basic
import Marginalia.Passage.Segment

/-!
Documents: source files with everything a site needs to know of them.
-/

namespace Marginalia

/-- A source file. -/
structure Document where
  /-- Its path inside the project, normalized. -/
  source : String
  /-- The path of its page. -/
  page : String
  title : String
  passages : List Passage
  language : Language
  headings : List Outline.Heading
  references : List Outline.Reference
  deriving DecidableEq, Repr

namespace Document

/-- A line without the number signs and blanks around its text. -/
def bareTitle (cs : List Char) : List Char :=
  let body := Text.trim ((Text.trim cs).dropWhile (· = '#'))
  Text.trimEnd (Text.dropWhileEnd (· = '#') body)

/-- The title of a file: the first line of its first prose that says anything, else its name. -/
def titleOf (passages : List Passage) (source : String) : String :=
  let found := (passages.find? (·.isProse)).bind fun p =>
    (p.lines.map fun l => bareTitle l.content.toList).find? (· ≠ [])
  match found with
  | some title => String.ofList title
  | none => Path.fileName source

/-- The document of a source file. -/
def read (path text : String) (l : Language) (m : PageMap) : Document :=
  let source := Path.normalize path
  let passages := Passage.segment l text
  let outline := Outline.ofPassages passages
  { source
    page := m.page source
    title := titleOf passages source
    passages
    language := l
    headings := outline.headings
    references := outline.references }

/-- The name of the file. -/
def fileName (d : Document) : String :=
  Path.fileName d.source

/-- The directory of the file, empty at the root. -/
def directory (d : Document) : String :=
  String.ofList (Text.dropWhileEnd (· = '/') (Path.directory d.source).toList)

end Document

end Marginalia
