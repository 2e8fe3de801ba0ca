import Marginalia.Markdown.Tag

/-!
Blocks of HTML: which lines start one, and where it ends.
-/

namespace Marginalia.Markdown
open Text

/-- Where a block of HTML ends. -/
inductive HtmlEnd where
  /-- With the line that holds this text. -/
  | mark (text : List Char)
  /-- Before a blank line. -/
  | blank
  deriving Repr

/-- Elements whose text is not markup. -/
def rawElements : List String :=
  ["pre", "style", "script", "textarea"]

/-- Elements that start a block. -/
def blockElements : List String := [
  "address", "article", "aside", "base", "basefont", "blockquote", "body", "caption", "center",
  "col", "colgroup", "dd", "details", "dialog", "dir", "div", "dl", "dt", "fieldset",
  "figcaption", "figure", "footer", "form", "frame", "frameset", "h1", "h2", "h3", "h4", "h5",
  "h6", "head", "header", "hr", "html", "iframe", "legend", "li", "link", "main", "menu",
  "menuitem", "nav", "noframes", "ol", "optgroup", "option", "p", "param", "search", "section",
  "summary", "table", "tbody", "td", "tfoot", "th", "thead", "title", "tr", "track", "ul"]

/-- The text in lower case, letters of ASCII only. -/
def asciiLower (cs : List Char) : List Char :=
  cs.map Char.toLower

/-- The end of a block that starts, after `<`, with an element of raw text, a comment, an
instruction, character data or a declaration. -/
def markedEnd? (cs : List Char) : Option (List Char) :=
  let raw := rawElements.find? fun name =>
    asciiLower (cs.take name.length) = name.toList &&
      (cs.drop name.length).head?.all fun c => isWhite c || c = '>'
  match raw with
  | some name => some ("</".toList ++ name.toList ++ ">".toList)
  | none =>
    if startsWith "!--".toList cs then some "-->".toList
    else if startsWith "?".toList cs then some "?>".toList
    else if startsWith "![CDATA[".toList cs then some "]]>".toList
    else match cs with
      | '!' :: c :: _ => if c.isAlpha then some ">".toList else none
      | _ => none

/-- Does the text, after `<`, name an element that starts a block? -/
def startsBlockElement (cs : List Char) : Bool :=
  let cs := match cs with
    | '/' :: rest => rest
    | _ => cs
  let name := cs.takeWhile Char.isAlphanum
  let rest := cs.drop name.length
  blockElements.contains (String.ofList (asciiLower name)) &&
    match rest with
    | [] => true
    | '/' :: '>' :: _ => true
    | c :: _ => c = ' ' || c = '\t' || c = '>'

/-- The end of a block of HTML that may start in the middle of a paragraph. -/
def strongHtmlEnd? (cs : List Char) : Option HtmlEnd :=
  match cs with
  | '<' :: rest =>
    match markedEnd? rest with
    | some mark => some (.mark mark)
    | none => if startsBlockElement rest then some .blank else none
  | _ => none

/-- The end of the block of HTML that a line starts. A single tag that fills the line starts one
too. -/
def htmlEnd? (cs : List Char) : Option HtmlEnd :=
  match strongHtmlEnd? cs with
  | some stop => some stop
  | none =>
    match cs with
    | '<' :: rest =>
      match tag? (Glyph.ofChars 0 rest) with
      | some after => if isBlankLine (Glyph.chars after) then some .blank else none
      | none => none
    | _ => none

/-- Does the text hold `part`? -/
def holds (part : List Char) : List Char → Bool
  | [] => part.isEmpty
  | c :: cs => startsWith part (c :: cs) || holds part cs

end Marginalia.Markdown
