/-!
Texts as lists of characters: what they start with, their blanks, which are the characters of the
property White_Space, and their lines and pieces.
-/

namespace Marginalia.Text

/-! ## Starts -/

/-- What follows `start` in a text that starts with it. -/
def after? : List Char → List Char → Option (List Char)
  | [], cs => some cs
  | _ :: _, [] => none
  | s :: start, c :: cs => if s = c then after? start cs else none

/-- Does the text start with `start`? -/
def startsWith (start cs : List Char) : Bool :=
  (after? start cs).isSome

/-- An element of the largest size, the last one of several. -/
def largest? {α : Type} (size : α → Nat) : List α → Option α
  | [] => none
  | a :: rest =>
    match largest? size rest with
    | none => some a
    | some b => if size b < size a then some a else some b

/-! ## Blanks -/

/-- Is the character white space? -/
def isBlank (c : Char) : Bool :=
  let n := c.toNat
  (0x9 ≤ n && n ≤ 0xD) || n == 0x20 || n == 0x85 || n == 0xA0 || n == 0x1680 ||
    (0x2000 ≤ n && n ≤ 0x200A) || n == 0x2028 || n == 0x2029 || n == 0x202F || n == 0x205F ||
    n == 0x3000

/-- Drops the characters at the end that satisfy `p`. -/
def dropWhileEnd (p : Char → Bool) (cs : List Char) : List Char :=
  (cs.reverse.dropWhile p).reverse

/-- Drops the blanks at the start. -/
def trimStart (cs : List Char) : List Char :=
  cs.dropWhile isBlank

/-- Drops the blanks at the end. -/
def trimEnd (cs : List Char) : List Char :=
  dropWhileEnd isBlank cs

/-- Drops the blanks at both ends. -/
def trim (cs : List Char) : List Char :=
  trimEnd (trimStart cs)

/-- Are all characters blank? -/
def allBlank (cs : List Char) : Bool :=
  cs.all isBlank

/-! ## Lines and pieces -/

/-- The lines of a text. A line feed ends a line, together with one carriage return right before it;
any other carriage return belongs to its line. After a line feed at the end no line follows. -/
def lines : List Char → List (List Char)
  | [] => []
  | '\n' :: cs => [] :: lines cs
  | '\r' :: '\n' :: cs => [] :: lines cs
  | c :: cs =>
    match lines cs with
    | [] => [[c]]
    | l :: ls => (c :: l) :: ls

/-- The pieces of a text between the separators: one more than there are separators. -/
def split (sep : Char) : List Char → List (List Char)
  | [] => [[]]
  | c :: cs =>
    if c = sep then [] :: split sep cs
    else match split sep cs with
      | [] => [[c]]
      | p :: ps => (c :: p) :: ps

/-- What stands before the first `sep` and what stands after it, if there is one. -/
def cutAt (sep : Char) : List Char → Option (List Char × List Char)
  | [] => none
  | c :: cs =>
    if c = sep then some ([], cs)
    else (cutAt sep cs).map fun (before, after) => (c :: before, after)

/-- The texts one after the other, with `sep` between them. -/
def join (sep : String) (parts : List String) : String :=
  String.ofList (List.intercalate sep.toList (parts.map String.toList))

end Marginalia.Text
