import Marginalia.Language.Basic
import Marginalia.Passage.Basic
import Marginalia.Text.Basic

/-!
Comments that may run over several lines: where they end, and where the text of a line inside them
starts and stops.
-/

namespace Marginalia.Passage
open Text

/-- Do comments of this kind count the openings inside them? -/
def nests (l : Language) (b : BlockComment) : Bool :=
  l.nested && b.opening ≠ b.closing && b.opening ≠ ""

/-- Looks in the text for the closing marker that ends a comment which is `depth` deep: where it
stands, or how deep the comment still is at the end of the text. The next `skip` characters belong
to a marker that is counted already. -/
def findClose (b : BlockComment) (nesting : Bool) : (skip depth : Nat) → List Char → Except Nat Nat
  | _, depth, [] => .error depth
  | skip + 1, depth, _ :: cs => (findClose b nesting skip depth cs).map (· + 1)
  | 0, depth, c :: cs =>
    if startsWith b.closing.toList (c :: cs) then
      if depth ≤ 1 || b.closing = "" then .ok 0
      else (findClose b nesting (b.closing.length - 1) (depth - 1) cs).map (· + 1)
    else if nesting && startsWith b.opening.toList (c :: cs) then
      (findClose b nesting (b.opening.length - 1) (depth + 1) cs).map (· + 1)
    else (findClose b nesting 0 depth cs).map (· + 1)

/-- One if the text starts with a blank, else zero. -/
def leadingBlank : List Char → Nat
  | c :: _ => if isBlank c then 1 else 0
  | [] => 0

/-- One if the text ends with a blank, else zero. -/
def trailingBlank (cs : List Char) : Nat :=
  leadingBlank cs.reverse

/-- The middle marker, unless it is empty. -/
def middleMark (b : BlockComment) : List Char :=
  (b.middle.getD "").toList

/-- How many characters at the start of the text are copies of the middle marker, of which the next
`skip` are counted already. -/
def middleRun (middle : List Char) : (skip : Nat) → List Char → Nat
  | _, [] => 0
  | skip + 1, _ :: cs => middleRun middle skip cs + 1
  | 0, c :: cs =>
    if middle ≠ [] && startsWith middle (c :: cs) then
      middleRun middle (middle.length - 1) cs + 1
    else 0

/-- Where the text of a line inside a comment starts: after the indentation, the middle marker and
one blank. -/
def interiorStart (b : BlockComment) (cs : List Char) : Nat :=
  let trimmed := trimStart cs
  let indent := cs.length - trimmed.length
  match after? (middleMark b) trimmed with
  | some rest =>
    if middleMark b = [] then indent
    else indent + (middleMark b).length + leadingBlank rest
  | none => indent

/-- Where the text of an opening line starts: after copies of the middle marker and one blank, when
`cs` follows the opening marker. -/
def openingStart (b : BlockComment) (cs : List Char) : Nat :=
  let run := middleRun (middleMark b) 0 cs
  run + leadingBlank (cs.drop run)

end Marginalia.Passage
