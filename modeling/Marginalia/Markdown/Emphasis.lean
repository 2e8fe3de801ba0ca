import Marginalia.Markdown.Tree
import Marginalia.Text.Basic
import Marginalia.Text.Punctuation

/-!
Emphasis. Runs of stars, underscores and tildes open and close emphasis by what stands beside them;
a closing run pairs with the nearest opening run that fits, and what is left of a run is text.
-/

namespace Marginalia.Markdown
open Text

/-- A part of inline text before emphasis is settled. -/
inductive Piece where
  | inline (content : Inline)
  /-- A run of `count` marks. -/
  | run (mark : Char) (count : Nat) (canOpen canClose : Bool)

/-- May a run of marks open emphasis between these characters? -/
def canOpen (mark : Char) (count : Nat) (before after : Char) : Bool :=
  !isBlank after &&
    (isBlank before ||
      ((mark = '*' || (mark = '~' && 1 < count)) && !isPunctuation after) ||
      (mark = '~' && before = '~' && !isPunctuation after) ||
      isPunctuation before)

/-- May a run of marks close emphasis between these characters? -/
def canClose (mark : Char) (count : Nat) (before after : Char) : Bool :=
  !isBlank before &&
    (((mark = '*' || (mark = '~' && 1 < count)) && !isPunctuation before) ||
      (mark = '~' && before = '~') ||
      isBlank after || isPunctuation after)

/-- A run that has opened emphasis, with the text after it, last part first. -/
structure Opener where
  mark : Char
  /-- How many marks are not yet used. -/
  count : Nat
  /-- How many marks the run had. -/
  run : Nat
  /-- Could the run have closed emphasis as well? -/
  both : Bool
  /-- Can no run close it any more? -/
  hidden : Bool := false
  content : List Inline := []

/-- Open runs, innermost first, and the text before them, last part first. -/
structure EmphasisStack where
  openers : List Opener := []
  base : List Inline := []

/-- Marks as text. -/
def marksText (mark : Char) (count : Nat) : Inline :=
  .text (String.ofList (List.replicate count mark))

namespace EmphasisStack

/-- Adds parts, last one first, to the innermost open run. -/
def push (s : EmphasisStack) (parts : List Inline) : EmphasisStack :=
  match s.openers with
  | [] => { s with base := parts ++ s.base }
  | o :: os => { s with openers := { o with content := parts ++ o.content } :: os }

/-- The parts of an open run that nothing closes, last one first. -/
def unmatched (o : Opener) : List Inline :=
  o.content ++ [marksText o.mark o.count]

/-- May a closing run end this one? Tildes need equal runs. If one of two runs could both open and
close, their lengths must not add up to a multiple of three, unless both are one. -/
def fits (mark : Char) (run : Nat) (both : Bool) (o : Opener) : Bool :=
  o.mark = mark && !o.hidden && (mark ≠ '~' || o.run = run) &&
    ((!both && !o.both) || (run + o.run) % 3 ≠ 0 || run % 3 = 0)

/-- The nearest open run that fits, with the parts of those inside it as its own, and those outside
it. -/
def find (ok : Opener → Bool) : List Opener → Option (Opener × List Opener)
  | [] => none
  | o :: os =>
    if ok o then some (o, os)
    else match find ok os with
      | none => none
      | some (p, rest) => some ({ p with content := unmatched o ++ p.content }, rest)

/-- Puts `n` pairs of marks around the parts: double ones inside, a single one outside. -/
def wrap (mark : Char) : (n : Nat) → List Inline → List Inline
  | 0, parts => parts
  | 1, parts => [if mark = '~' then .struck parts else .emphasis parts]
  | n + 2, parts => wrap mark n [if mark = '~' then .struck parts else .strong parts]

/-- Hides the open runs of tildes. -/
def hideTildes (os : List Opener) : List Opener :=
  os.map fun o => if o.mark = '~' then { o with hidden := true } else o

/-- Closes open runs with `count` marks, at most `fuel` times, and gives the marks that are left. A
closing run of tildes that nothing fits hides the open ones. -/
def close (mark : Char) (run : Nat) (both : Bool) :
    (fuel count : Nat) → EmphasisStack → EmphasisStack × Nat
  | 0, count, s => (s, count)
  | fuel + 1, count, s =>
    if count = 0 then (s, 0)
    else match find (fits mark run both) s.openers with
      | none =>
        (if mark = '~' then { s with openers := hideTildes s.openers } else s, count)
      | some (o, os) =>
        let n := min count o.count
        let wrapped := wrap mark n o.content.reverse
        let s : EmphasisStack :=
          if n < o.count then
            { s with openers := { o with count := o.count - n, content := wrapped } :: os }
          else ({ s with openers := os } : EmphasisStack).push wrapped
        close mark run both fuel (count - n) s

/-- Takes in one part. -/
def step (s : EmphasisStack) : Piece → EmphasisStack
  | .inline content => s.push [content]
  | .run mark count opens closes =>
    let both := opens && closes
    let (s, left) := if closes then close mark count both count count s else (s, count)
    if left = 0 then s
    else if opens then
      { s with openers := { mark, count := left, run := count, both } :: s.openers }
    else s.push [marksText mark left]

/-- The text when no more run follows. -/
def finish (s : EmphasisStack) : List Inline :=
  (s.openers.flatMap unmatched ++ s.base).reverse

end EmphasisStack

/-- Settles emphasis. -/
def settleEmphasis (pieces : List Piece) : List Inline :=
  (pieces.foldl EmphasisStack.step {}).finish

end Marginalia.Markdown
