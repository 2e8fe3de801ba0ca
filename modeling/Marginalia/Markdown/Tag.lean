import Marginalia.Markdown.Label
import Marginalia.Text.Basic

/-!
What may stand between angle brackets: addresses, tags, comments, instructions, declarations and
character data. Each reader takes the text after `<` and gives what follows `>`.
-/

namespace Marginalia.Markdown

/-- Where a reader stands inside a tag. -/
inductive TagState where
  | name
  /-- After a blank: an attribute or the end may follow. -/
  | gap
  | attribute
  /-- After an attribute's name and a blank. -/
  | afterAttribute
  /-- After an equals sign. -/
  | value
  | quoted (mark : Char)
  | afterQuoted
  | unquoted
  /-- After a slash. -/
  | slash
  deriving DecidableEq

/-- May the character stand in the name of an element, after the first letter? -/
def isElementChar (c : Char) : Bool :=
  c.isAlphanum || c = '-'

/-- May the character start the name of an attribute? -/
def startsAttribute (c : Char) : Bool :=
  c.isAlpha || c = '_' || c = ':'

/-- May the character stand in the name of an attribute? -/
def isAttributeChar (c : Char) : Bool :=
  c.isAlphanum || c = '_' || c = ':' || c = '.' || c = '-'

/-- The state after one character of a tag. There is none where the text is no tag. The closing
bracket is not read here. -/
def TagState.step (s : TagState) (c : Char) : Option TagState :=
  match s with
  | .name =>
    if isElementChar c then some .name
    else if isWhite c then some .gap
    else if c = '/' then some .slash
    else none
  | .gap =>
    if isWhite c then some .gap
    else if c = '/' then some .slash
    else if startsAttribute c then some .attribute
    else none
  | .attribute =>
    if isAttributeChar c then some .attribute
    else if isWhite c then some .afterAttribute
    else if c = '=' then some .value
    else if c = '/' then some .slash
    else none
  | .afterAttribute =>
    if isWhite c then some .afterAttribute
    else if c = '=' then some .value
    else if c = '/' then some .slash
    else if startsAttribute c then some .attribute
    else none
  | .value =>
    if isWhite c then some .value
    else if c = '"' || c = '\'' then some (.quoted c)
    else if c = '=' || c = '<' || c = '`' then none
    else some .unquoted
  | .quoted mark => if c = mark then some .afterQuoted else some (.quoted mark)
  | .afterQuoted =>
    if isWhite c then some .gap
    else if c = '/' then some .slash
    else none
  | .unquoted =>
    if isWhite c then some .gap
    else if c = '"' || c = '\'' || c = '=' || c = '<' || c = '`' then none
    else some .unquoted
  | .slash => none

/-- May the tag end here? -/
def TagState.mayEnd : TagState → Bool
  | .value => false
  | .quoted _ => false
  | _ => true

/-- The rest of a tag. -/
def tagFrom : TagState → List Glyph → Option (List Glyph)
  | _, [] => none
  | s, g :: rest =>
    if g.char = '>' && s.mayEnd then some rest
    else match s.step g.char with
      | some next => if g.char = '>' && !(s matches .quoted _) then none else tagFrom next rest
      | none => none

/-- An opening or closing tag. In a closing tag blanks on the same line may follow the name. -/
def tag? (gs : List Glyph) : Option (List Glyph) :=
  match gs with
  | [] => none
  | g :: rest =>
    if g.char = '/' then
      match rest with
      | h :: rest =>
        if h.char.isAlpha then
          match (rest.dropWhile (isElementChar ·.char)).dropWhile (isSpace ·.char) with
          | e :: after => if e.char = '>' then some after else none
          | [] => none
        else none
      | [] => none
    else if g.char.isAlpha then tagFrom .name rest
    else none

/-- What follows the first occurrence of `mark`. -/
def afterMark (mark : List Char) : List Glyph → Option (List Glyph)
  | [] => none
  | g :: rest =>
    if Text.startsWith mark (Glyph.chars (g :: rest)) then some (rest.drop (mark.length - 1))
    else afterMark mark rest

/-- A comment, after `<!--`. -/
def commentEnd? (gs : List Glyph) : Option (List Glyph) :=
  match gs with
  | g :: h :: rest =>
    if g.char = '>' then some (h :: rest)
    else if g.char = '-' && h.char = '>' then some rest
    else afterMark "-->".toList gs
  | [g] => if g.char = '>' then some [] else none
  | [] => none

/-- A comment, declaration, instruction or character data, after `<`. -/
def markup? (gs : List Glyph) : Option (List Glyph) :=
  let cs := Glyph.chars gs
  if Text.startsWith "!--".toList cs then commentEnd? (gs.drop 3)
  else if Text.startsWith "![CDATA[".toList cs then afterMark "]]>".toList (gs.drop 8)
  else match cs with
    | '?' :: _ => afterMark "?>".toList (gs.drop 1)
    | '!' :: c :: _ => if c.isAlpha then afterMark ">".toList (gs.drop 2) else none
    | _ => none

/-- May the character stand in a scheme, after the first letter? -/
def isSchemeChar (c : Char) : Bool :=
  c.isAlphanum || c = '.' || c = '-' || c = '+'

/-- An address with a scheme: the address and what follows the closing bracket. -/
def address? (gs : List Glyph) : Option (List Char × List Glyph) :=
  let cs := Glyph.chars gs
  match cs with
  | c :: rest =>
    let scheme := rest.takeWhile isSchemeChar
    if !c.isAlpha || scheme.isEmpty || 31 < scheme.length then none
    else if (rest.drop scheme.length).head? ≠ some ':' then none
    else
      let body := cs.takeWhile fun d => decide (' ' < d) && d ≠ '<' && d ≠ '>'
      match gs.drop body.length with
      | g :: after => if g.char = '>' then some (body, after) else none
      | [] => none
  | [] => none

/-- May the character stand before the at sign of a mail address? -/
def isMailChar (c : Char) : Bool :=
  c.isAlphanum || ".!#$%&'*+/=?^_\x60\x7b|\x7d~-".toList.contains c

/-- Is the text a part of a host name? -/
def isHostLabel (cs : List Char) : Bool :=
  !cs.isEmpty && decide (cs.length ≤ 63) && cs.all isElementChar &&
    cs.head? ≠ some '-' && cs.getLast? ≠ some '-'

/-- The parts of a text between dots. -/
def dotted (cs : List Char) : List (List Char) :=
  cs.foldr (fun c parts =>
    if c = '.' then [] :: parts
    else match parts with
      | [] => [[c]]
      | p :: ps => (c :: p) :: ps) [[]]

/-- A mail address: the address and what follows the closing bracket. -/
def mail? (gs : List Glyph) : Option (List Char × List Glyph) :=
  let cs := Glyph.chars gs
  let user := cs.takeWhile isMailChar
  match cs.drop user.length with
  | '@' :: rest =>
    let host := rest.takeWhile fun c => isElementChar c || c = '.'
    if user.isEmpty || !(dotted host).all isHostLabel then none
    else
      let size := user.length + 1 + host.length
      match gs.drop size with
      | g :: after => if g.char = '>' then some (cs.take size, after) else none
      | [] => none
  | _ => none

end Marginalia.Markdown
