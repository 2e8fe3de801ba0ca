import Marginalia.Markdown.Entity.Capital
import Marginalia.Markdown.Entity.SmallFirst
import Marginalia.Markdown.Entity.SmallLast
import Marginalia.Text.Punctuation
import Marginalia.Url.Percent

/-!
Entities and backslash escapes: characters written by name, by code point or behind a backslash.
-/

namespace Marginalia.Markdown
open Text

/-- The characters that a name stands for. -/
def namedEntity? (name : String) : Option (List Char) :=
  let found := match name.toList with
    | c :: _ =>
      if c.isUpper then Entity.capital.lookup name
      else if c ≤ 'l' then Entity.smallFirst.lookup name
      else Entity.smallLast.lookup name
    | [] => none
  found.map fun codes => codes.map Char.ofNat

/-- The character with a code point. Zero stands for the replacement character, and a surrogate or a
number beyond the last code point for none. -/
def charOfCode? (n : Nat) : Option Char :=
  if n = 0 then some replacement
  else if n.isValidChar then some (Char.ofNat n)
  else none

/-- The number that digits in a base stand for. -/
def numeral (base : Nat) (digits : List Char) : Nat :=
  digits.foldl (fun n d => n * base + (Url.hexValue? d).getD 0) 0

/-- What an ampersand and the text after it stand for, and how many characters of that text belong
to it. -/
def entityAfter? (cs : List Char) : Option (List Char × Nat) :=
  match cs with
  | '#' :: rest =>
    let (base, extra, digits) :=
      match rest with
      | 'x' :: ds => (16, 2, (ds.take 6).takeWhile fun d => (Url.hexValue? d).isSome)
      | 'X' :: ds => (16, 2, (ds.take 6).takeWhile fun d => (Url.hexValue? d).isSome)
      | ds => (10, 1, (ds.take 7).takeWhile Char.isDigit)
    let size := extra + digits.length
    if digits.isEmpty || (cs.drop size).head? ≠ some ';' then none
    else (charOfCode? (numeral base digits)).map fun c => ([c], size + 1)
  | _ =>
    let name := cs.takeWhile Char.isAlphanum
    if (cs.drop name.length).head? ≠ some ';' then none
    else (namedEntity? (String.ofList name)).map fun value => (value, name.length + 1)

/-- The text with its escapes and entities resolved. The next `skip` characters are read already. -/
def unescapeFrom : (skip : Nat) → List Char → List Char
  | _, [] => []
  | skip + 1, _ :: cs => unescapeFrom skip cs
  | 0, '\r' :: cs => unescapeFrom 0 cs
  | 0, '\\' :: c :: cs =>
    if isAsciiPunctuation c then c :: unescapeFrom 1 (c :: cs) else '\\' :: unescapeFrom 0 (c :: cs)
  | 0, '&' :: cs =>
    match entityAfter? cs with
    | some (value, size) => value ++ unescapeFrom size cs
    | none => '&' :: unescapeFrom 0 cs
  | 0, c :: cs => c :: unescapeFrom 0 cs

/-- The text with its escapes and entities resolved. -/
def unescape (cs : List Char) : String :=
  String.ofList (unescapeFrom 0 cs)

end Marginalia.Markdown
