import Marginalia.Markdown.Glyph
import Marginalia.Text.CaseFold

/-!
Labels between square brackets. Runs of blanks count as one space, and case does not count.
-/

namespace Marginalia.Markdown

/-- Blanks of ASCII, line ends included. -/
def isWhite (c : Char) : Bool :=
  (0x9 ≤ c.toNat && c.toNat ≤ 0xD) || c = ' '

/-- What stands before the closing bracket and what follows it. A backslash hides the next
character, and an opening bracket ends the search. -/
def labelBody : List Glyph → Option (List Glyph × List Glyph)
  | [] => none
  | g :: rest =>
    if g.char = ']' then some ([], rest)
    else if g.char = '[' then none
    else if g.char = '\\' then
      match rest with
      | [] => none
      | h :: rest => (labelBody rest).map fun (body, after) => (g :: h :: body, after)
    else (labelBody rest).map fun (body, after) => (g :: body, after)

/-- The words of a text, between blanks. -/
def words (cs : List Char) : List (List Char) :=
  let step (c : Char) (ws : List (List Char)) : List (List Char) :=
    if isWhite c then [] :: ws
    else match ws with
      | [] => [[c]]
      | w :: ws => (c :: w) :: ws
  (cs.foldr step [[]]).filter (· ≠ [])

/-- The text with one space between its words. -/
def collapse (cs : List Char) : List Char :=
  List.intercalate [' '] (words cs)

/-- The longest label, in characters. -/
def labelLimit : Nat :=
  999

/-- The label that the text after an opening bracket starts with, and what follows its closing
bracket. Where `broken` is false the label must stand on one line. -/
def label? (broken : Bool) (gs : List Glyph) : Option (List Char × List Glyph) :=
  match labelBody gs with
  | none => none
  | some (body, rest) =>
    if labelLimit < body.length || body.all (fun g => isWhite g.char) then none
    else if !broken && body.any (·.isBreak) then none
    else some (collapse (Glyph.chars body), rest)

/-- Two labels are the same when their keys are. -/
def labelKey (label : List Char) : List Char :=
  Text.foldCase label

/-- What the text after an opening bracket says in brackets. -/
inductive Bracketed where
  | link (label : List Char)
  | note (label : List Char)
  deriving Repr

/-- The label of a link or, after a caret and on one line, of a footnote, and what follows it. -/
def bracketed? (gs : List Glyph) : Option (Bracketed × List Glyph) :=
  let asNote :=
    match gs with
    | g :: h :: rest =>
      if g.char = '^' && h.char ≠ ']' then label? false (h :: rest) else none
    | _ => none
  match asNote with
  | some (label, rest) => some (.note label, rest)
  | none => (label? true gs).map fun (label, rest) => (.link label, rest)

end Marginalia.Markdown
