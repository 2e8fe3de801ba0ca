import Marginalia.Text.Basic
import Marginalia.Text.LowerCase

/-!
Languages: which files are written in them and how they mark comments. Where several markers fit,
the longest one counts.
-/

namespace Marginalia

/-- The markers of a comment that may run over several lines. -/
structure BlockComment where
  opening : String
  closing : String
  /-- What may stand before the text of an inner line. -/
  middle : Option String := none
  deriving DecidableEq, Repr

/-- A language of source files. -/
structure Language where
  name : String
  /-- Extensions of its files, without the dot. -/
  extensions : List String := []
  /-- Whole names of its files. -/
  fileNames : List String := []
  /-- Markers of comments that run to the end of the line. -/
  lineComments : List String := []
  blockComments : List BlockComment := []
  /-- Do block comments nest? -/
  nested : Bool := false
  /-- What the highlighter calls the language. -/
  highlighter : String := ""
  /-- After a line marker: the comment stays code. -/
  ignoreMark : Option String := none
  /-- After a line marker: the next code is folded. -/
  foldMark : Option String := none
  /-- Is every line of a file prose? -/
  proseOnly : Bool := false
  deriving DecidableEq, Repr

namespace Language
open Text

/-- A language without comments and files; its highlighter is its name in lower case. -/
def named (name : String) : Language :=
  { name, highlighter := lower name }

/-- Has the language any comments? -/
def hasComments (l : Language) : Bool :=
  !l.lineComments.isEmpty || !l.blockComments.isEmpty

/-- Does the text start with the marker, which is not empty? -/
def marks (marker : String) (text : List Char) : Bool :=
  marker ≠ "" && startsWith marker.toList text

/-- The longest line marker that the text starts with. -/
def lineMarker? (l : Language) (text : List Char) : Option String :=
  largest? String.length (l.lineComments.filter (marks · text))

/-- Is the marker a run of one character, longer than one byte, that `rest` continues? -/
def continuesRun (marker : String) (rest : List Char) : Bool :=
  match marker.toList with
  | [] => false
  | c :: others =>
    decide (1 < marker.utf8ByteSize) && others.all (· = c) && rest.head? = some c

/-- Does the text start with a comment of this kind? A run of one character opens a comment only
where the run ends. -/
def opens (b : BlockComment) (text : List Char) : Bool :=
  b.opening ≠ "" &&
    match after? b.opening.toList text with
    | none => false
    | some rest => !continuesRun b.opening rest

/-- The comment with the longest opening that the text starts with. -/
def blockOpening? (l : Language) (text : List Char) : Option BlockComment :=
  largest? (fun b => b.opening.length) (l.blockComments.filter (opens · text))

end Language

end Marginalia
