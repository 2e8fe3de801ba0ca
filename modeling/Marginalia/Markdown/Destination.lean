import Marginalia.Markdown.Entity
import Marginalia.Markdown.Label

/-!
Where a link leads: destinations and titles, behind the text of a link or in a definition of a
label.
-/

namespace Marginalia.Markdown
open Text

/-- Passes over blanks and at most one line break. -/
def skipGap (gs : List Glyph) : List Glyph :=
  match gs.dropWhile (isSpace ·.char) with
  | [] => []
  | g :: rest => if g.isBreak then rest.dropWhile (isSpace ·.char) else g :: rest

/-- A destination between angle brackets, after the opening one. -/
def angled? : List Glyph → Option (List Char × List Glyph)
  | [] => none
  | g :: rest =>
    if g.char = '>' then some ([], rest)
    else if g.isBreak || g.char = '<' then none
    else if g.char = '\\' then
      match rest with
      | h :: after =>
        if isAsciiPunctuation h.char then
          (angled? after).map fun (cs, end') => ('\\' :: h.char :: cs, end')
        else (angled? (h :: after)).map fun (cs, end') => ('\\' :: cs, end')
      | [] => none
    else (angled? rest).map fun (cs, end') => (g.char :: cs, end')

/-- How deep parentheses may nest in a destination. -/
def nestLimit : Nat :=
  33

/-- A destination without angle brackets, inside `depth` parentheses: up to a blank, a control
character or a parenthesis that closes more than it opens. -/
def bare? (depth : Nat) : List Glyph → Option (List Char × List Glyph)
  | [] => if depth = 0 then some ([], []) else none
  | g :: rest =>
    let stop := if depth = 0 then some ([], g :: rest) else none
    if g.char ≤ ' ' then stop
    else if g.char = '(' then
      if nestLimit ≤ depth then none
      else (bare? (depth + 1) rest).map fun (cs, after) => ('(' :: cs, after)
    else if g.char = ')' then
      match depth with
      | 0 => stop
      | depth + 1 => (bare? depth rest).map fun (cs, after) => (')' :: cs, after)
    else if g.char = '\\' then
      match rest with
      | h :: after =>
        if isAsciiPunctuation h.char then
          (bare? depth after).map fun (cs, end') => ('\\' :: h.char :: cs, end')
        else (bare? depth (h :: after)).map fun (cs, end') => ('\\' :: cs, end')
      | [] => (bare? depth []).map fun (cs, after) => ('\\' :: cs, after)
    else (bare? depth rest).map fun (cs, after) => (g.char :: cs, after)

/-- The destination that a text starts with, as it is written, and what follows it. -/
def destination? (gs : List Glyph) : Option (List Char × List Glyph) :=
  match gs with
  | g :: rest => if g.char = '<' then angled? rest else bare? 0 gs
  | [] => bare? 0 gs

/-- The rest of a title up to the closing mark, as it is written. Parentheses do not nest in it. -/
def titleFrom (opening closing : Char) : List Glyph → Option (List Char × List Glyph)
  | [] => none
  | g :: rest =>
    if g.char = closing then some ([], rest)
    else if g.char = opening then none
    else if g.char = '\\' then
      match rest with
      | h :: after =>
        if isAsciiPunctuation h.char then
          (titleFrom opening closing after).map fun (cs, end') => ('\\' :: h.char :: cs, end')
        else (titleFrom opening closing (h :: after)).map fun (cs, end') => ('\\' :: cs, end')
      | [] => none
    else (titleFrom opening closing rest).map fun (cs, after) => (g.char :: cs, after)

/-- The title that a text starts with, as it is written, and what follows it. -/
def title? (gs : List Glyph) : Option (List Char × List Glyph) :=
  match gs with
  | [] => none
  | g :: rest =>
    if g.char = '"' || g.char = '\'' then titleFrom g.char g.char rest
    else if g.char = '(' then titleFrom '(' ')' rest
    else none

/-- A destination and a title. -/
structure LinkTarget where
  destination : String
  title : String
  deriving Repr

/-- What stands in parentheses behind the text of a link, and what follows. -/
def inlineTarget? (gs : List Glyph) : Option (LinkTarget × List Glyph) :=
  match gs with
  | [] => none
  | g :: rest =>
    if g.char ≠ '(' then none
    else match destination? (skipGap rest) with
      | none => none
      | some (dest, rest) =>
        let rest := skipGap rest
        let (title, rest) := match title? rest with
          | some (title, rest) => (title, skipGap rest)
          | none => ([], rest)
        match rest with
        | h :: after =>
          if h.char = ')' then some (⟨unescape dest, unescape title⟩, after) else none
        | [] => none

/-- Is there nothing but blanks before the end of the line? -/
def lineEnds (gs : List Glyph) : Bool :=
  match gs.dropWhile (isSpace ·.char) with
  | [] => true
  | g :: _ => g.isBreak

/-- How many line breaks there are. -/
def breaks (gs : List Glyph) : Nat :=
  gs.countP (·.isBreak)

/-- The definition of a link label, as the text of a paragraph starts with it: the label, where it
leads, and what follows. A title may stand on the line after the destination; if what stands there
is no title, the definition ends before it. -/
def definition? (gs : List Glyph) : Option (List Char × LinkTarget × List Glyph) :=
  match gs with
  | [] => none
  | g :: rest =>
    if g.char ≠ '[' then none
    else match label? true rest with
      | none => none
      | some (label, rest) =>
        match rest with
        | [] => none
        | colon :: rest =>
          if colon.char ≠ ':' then none
          else
            let start := skipGap rest
            match destination? start with
            | none => none
            | some (dest, rest) =>
              if rest.length = start.length then none
              else
                let untitled : LinkTarget := ⟨unescape dest, ""⟩
                let gap := skipGap rest
                let titled := match title? gap with
                  | some (title, after) =>
                    if lineEnds after && gap.length < rest.length then some (title, after) else none
                  | none => none
                match titled with
                | some (title, after) => some (label, ⟨unescape dest, unescape title⟩, after)
                | none => if lineEnds rest then some (label, untitled, rest) else none

end Marginalia.Markdown
