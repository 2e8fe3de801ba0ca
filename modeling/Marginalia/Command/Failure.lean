import Marginalia.Text.Basic

/-!
What the command prints when it fails: what it tried, and what caused the failure.
-/

namespace Marginalia.Command

/-- A failure with its causes, the nearest one first. -/
structure Failure where
  message : String
  causes : List String := []
  deriving DecidableEq, Repr

namespace Failure

/-- Indents all lines of a text but the first. -/
def hang (indent : String) (text : String) : String :=
  Text.join ("\n" ++ indent) ((Text.split '\n' text.toList).map String.ofList)

/-- A number with blanks before it. -/
def padded (n : Nat) : String :=
  let digits := Nat.repr n
  String.ofList (List.replicate (5 - digits.length) ' ') ++ digits

/-- Causes as text, counted from `n`. -/
def numbered (n : Nat) : List String → String
  | [] => ""
  | c :: cs => "\n" ++ padded n ++ ": " ++ hang "       " c ++ numbered (n + 1) cs

/-- Causes as text. A single one has no number. -/
def causesText : List String → String
  | [] => ""
  | [c] => "\n\nCaused by:\n    " ++ hang "    " c
  | cs => "\n\nCaused by:" ++ numbered 0 cs

/-- The failure as text. -/
def text (f : Failure) : String :=
  "Error: " ++ f.message ++ causesText f.causes ++ "\n"

end Failure

end Marginalia.Command
