import Marginalia.Toml.Value
import Marginalia.Url.Percent

/-!
Quoted text in TOML documents. Double quotes allow escapes, single quotes do not; three quotes hold
several lines.
-/

namespace Marginalia.Toml

/-- May the character stand in a document? Control characters may not, tabs apart. -/
def isPlain (c : Char) : Bool :=
  c = '\t' || (0x20 ≤ c.toNat && c.toNat ≠ 0x7f)

/-- What follows a line end, if there is one. -/
def lineEnd? : List Char → Option (List Char)
  | '\n' :: cs => some cs
  | '\r' :: '\n' :: cs => some cs
  | _ => none

/-- Is it a space or a tab? -/
def isBlank (c : Char) : Bool :=
  c = ' ' || c = '\t'

/-- Drops spaces and tabs. -/
def skipBlanks (cs : List Char) : List Char :=
  cs.dropWhile isBlank

/-- Reads `n` hexadecimal digits. -/
def hexDigits : Nat → Nat → List Char → Option (Nat × List Char)
  | 0, value, cs => some (value, cs)
  | n + 1, value, c :: cs => do
    let d ← Url.hexValue? c
    hexDigits n (16 * value + d) cs
  | _ + 1, _, [] => none

/-- Reads the code point that an escape gives in `n` digits. -/
def codePoint (n : Nat) (cs : List Char) : Option (Char × List Char) := do
  let (value, rest) ← hexDigits n 0 cs
  if value.isValidChar then return (Char.ofNat value, rest) else none

/-- Reads what follows the backslash of an escape. -/
def escaped : List Char → Option (Char × List Char)
  | 'b' :: cs => some ('\x08', cs)
  | 't' :: cs => some ('\t', cs)
  | 'n' :: cs => some ('\n', cs)
  | 'f' :: cs => some ('\x0c', cs)
  | 'r' :: cs => some ('\r', cs)
  | '"' :: cs => some ('"', cs)
  | '\\' :: cs => some ('\\', cs)
  | 'u' :: cs => codePoint 4 cs
  | 'U' :: cs => codePoint 8 cs
  | _ => none

/-- Drops blanks and line ends. -/
def skipLines : List Char → List Char
  | '\n' :: cs => skipLines cs
  | '\r' :: '\n' :: cs => skipLines cs
  | ' ' :: cs => skipLines cs
  | '\t' :: cs => skipLines cs
  | cs => cs

/-- What follows a line end and all blank space after it, with blanks before it. -/
def foldedLine? (cs : List Char) : Option (List Char) :=
  (lineEnd? (skipBlanks cs)).map skipLines

/-- Reads text up to its closing quote. The text so far is given last character first. -/
def basicText : Nat → List Char → List Char → Option (String × List Char)
  | 0, _, _ => none
  | _ + 1, _, [] => none
  | fuel + 1, seen, c :: cs =>
    if c = '"' then some (String.ofList seen.reverse, cs)
    else if c = '\\' then do
      let (e, rest) ← escaped cs
      basicText fuel (e :: seen) rest
    else if isPlain c then basicText fuel (c :: seen) cs
    else none

/-- Reads text up to its closing quote, without escapes. -/
def literalText : List Char → List Char → Option (String × List Char)
  | _, [] => none
  | seen, c :: cs =>
    if c = '\'' then some (String.ofList seen.reverse, cs)
    else if isPlain c then literalText (c :: seen) cs
    else none

/-- What a run of quotes means in a text of several lines: three end the text, and up to two more
before them belong to it. -/
def quoteRun (quote : Char) (cs : List Char) : Option (Nat × Bool × List Char) :=
  let run := (cs.takeWhile (· = quote)).length
  if run = 0 then none
  else if run < 3 then some (run, false, cs.drop run)
  else
    let own := min (run - 3) 2
    some (own, true, cs.drop (own + 3))

/-- Reads text of several lines up to its closing quotes. `escapes` says whether a backslash means
something. -/
def longText (quote : Char) (escapes : Bool) :
    Nat → List Char → List Char → Option (String × List Char)
  | 0, _, _ => none
  | _ + 1, _, [] => none
  | fuel + 1, seen, c :: cs =>
    match quoteRun quote (c :: cs) with
    | some (own, closes, rest) =>
      let seen := List.replicate own quote ++ seen
      if closes then some (String.ofList seen.reverse, rest)
      else longText quote escapes fuel seen rest
    | none =>
      match lineEnd? (c :: cs) with
      | some rest => longText quote escapes fuel ('\n' :: seen) rest
      | none =>
        if escapes && c = '\\' then
          match foldedLine? cs with
          | some rest => longText quote escapes fuel seen rest
          | none => do
            let (e, rest) ← escaped cs
            longText quote escapes fuel (e :: seen) rest
        else if isPlain c then longText quote escapes fuel (c :: seen) cs
        else none

/-- The text without a line end at its start. -/
def dropLineEnd (cs : List Char) : List Char :=
  (lineEnd? cs).getD cs

/-- Reads quoted text that stands on one line. -/
def shortQuoted : List Char → Option (String × List Char)
  | '"' :: cs => basicText (cs.length + 1) [] cs
  | '\'' :: cs => literalText [] cs
  | _ => none

/-- Reads quoted text. -/
def quoted : List Char → Option (String × List Char)
  | '"' :: '"' :: '"' :: cs => longText '"' true (cs.length + 1) [] (dropLineEnd cs)
  | '\'' :: '\'' :: '\'' :: cs => longText '\'' false (cs.length + 1) [] (dropLineEnd cs)
  | cs => shortQuoted cs

end Marginalia.Toml
