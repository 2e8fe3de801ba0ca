import Marginalia.Text.Alphanumeric
import Marginalia.Text.Basic
import Marginalia.Text.LowerCase

/-!
Anchors of headings: the slug of the heading, with a number when the slug is taken. A slug has the words
of a heading, in lower case, with single dashes between them.
-/

namespace Marginalia.Outline
open Marginalia.Text

/-- Does the character part two words of a slug? -/
def partsWords (c : Char) : Bool :=
  isBlank c || c = '-' || c = '_'

/-- The slug of `cs`. `started` says that something is written already, `pending` that a dash is due
before the next letter. -/
def slugChars (started pending : Bool) : List Char → List Char
  | [] => []
  | c :: cs =>
    if isAlphanumeric c then
      (if pending && started then ['-'] else []) ++ lowerChar c ++ slugChars true false cs
    else if partsWords c then slugChars started true cs
    else slugChars started pending cs

/-- The slug of a text that holds neither letter nor digit. -/
def emptySlug : String :=
  "section"

/-- The slug of a text. -/
def slug (text : String) : String :=
  match slugChars false false text.toList with
  | [] => emptySlug
  | cs => String.ofList cs

/-- The anchors given out in one document, and for each slug the number its last anchor had. -/
structure Anchors where
  used : List String := []
  counts : List (String × Nat) := []

/-- The number the slug's last anchor had, zero when it had none. -/
def Anchors.count (a : Anchors) (base : String) : Nat :=
  (a.counts.lookup base).getD 0

/-- A slug with a number. -/
def numbered (base : String) (n : Nat) : String :=
  base ++ "-" ++ Nat.repr n

/-- The first number after `n` whose anchor is free, looked for `tries` times. -/
def firstFree (used : List String) (base : String) : Nat → Nat → Nat
  | 0, n => n + 1
  | tries + 1, n =>
    if numbered base (n + 1) ∈ used then firstFree used base tries (n + 1) else n + 1

/-- Gives out the anchor of one more heading. Among one more number than there are anchors in use
some number is free. -/
def Anchors.take (a : Anchors) (text : String) : String × Anchors :=
  let base := slug text
  let last := a.count base
  if base ∈ a.used then
    let n := firstFree a.used base a.used.length last
    let anchor := numbered base n
    (anchor, { used := anchor :: a.used, counts := (base, n) :: a.counts })
  else
    (base, { used := base :: a.used, counts := (base, last) :: a.counts })

end Marginalia.Outline
