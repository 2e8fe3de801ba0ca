/-!
Patterns of paths. A question mark stands for any character and a star for any characters, slashes
included; brackets list characters and ranges of them; two stars stand for any directories, and only
for whole ones.
-/

namespace Marginalia.Path

/-- A piece of a pattern. -/
inductive Piece where
  | char (c : Char)
  | anyChar
  /-- One of the characters in the ranges, or one that is in none of them. -/
  | oneOf (negated : Bool) (ranges : List (Char × Char))
  | anyChars
  | anyDirectories
  deriving DecidableEq, Repr

/-- A pattern of paths. -/
abbrev Pattern := List Piece

/-- Why a text is no pattern, and where. -/
inductive PatternError where
  | brackets (position : Nat)
  | tooManyStars (position : Nat)
  | partialDirectory (position : Nat)
  deriving DecidableEq, Repr

/-- The wording of an error. -/
def PatternError.message : PatternError → String
  | .brackets n => "Pattern syntax error near position " ++ Nat.repr n ++ ": invalid range pattern"
  | .tooManyStars n =>
    "Pattern syntax error near position " ++ Nat.repr n ++
      ": wildcards are either regular `*` or recursive `**`"
  | .partialDirectory n =>
    "Pattern syntax error near position " ++ Nat.repr n ++
      ": recursive wildcards must form a single path component"

namespace Pattern

/-- The characters and ranges that brackets list. -/
def ranges : List Char → List (Char × Char)
  | a :: '-' :: b :: rest => (a, b) :: ranges rest
  | a :: rest => (a, a) :: ranges rest
  | [] => []

/-- What brackets list, and how many characters they take. The first character behind the opening
bracket and its negation never closes them. -/
def brackets? (rest : List Char) : Option (Piece × Nat) :=
  let (negated, taken, body) : Bool × Nat × List Char := match rest with
    | '!' :: body => (true, 2, body)
    | body => (false, 1, body)
  match body with
  | [] => none
  | c :: body =>
    let inside := body.takeWhile (· ≠ ']')
    if inside.length = body.length then none
    else some (.oneOf negated (ranges (c :: inside)), taken + inside.length + 2)

/-- Reads a pattern at a position, given the character before it. -/
def read (before : Option Char) (position : Nat) :
    List Char → Except PatternError (List Piece × Nat)
  | '?' :: _ => .ok ([.anyChar], 1)
  | '*' :: rest =>
    match (rest.takeWhile (· = '*')).length with
    | 0 => .ok ([.anyChars], 1)
    | 1 =>
      if before.any (· ≠ '/') then .error (.partialDirectory (position - 1))
      else match rest.drop 1 with
        | [] => .ok ([.anyDirectories], 2)
        | '/' :: _ => .ok ([.anyDirectories], 3)
        | _ => .error (.partialDirectory (position + 2))
    | _ => .error (.tooManyStars (position + 2))
  | '[' :: rest =>
    match brackets? rest with
    | some (piece, taken) => .ok ([piece], taken)
    | none => .error (.brackets position)
  | c :: _ => .ok ([.char c], 1)
  | [] => .ok ([], 0)

/-- Reads the rest of a pattern. -/
def readFrom (before : Option Char) (position : Nat) :
    (cs : List Char) → Except PatternError Pattern
  | [] => .ok []
  | c :: cs => do
    let (pieces, taken) ← read before position (c :: cs)
    let used := (c :: cs).take taken
    let rest ← readFrom used.getLast? (position + taken) (cs.drop (taken - 1))
    return pieces ++ rest
termination_by cs => cs.length
decreasing_by rw [List.length_drop, List.length_cons]; omega

/-- The pattern that a text stands for. -/
def parse (text : String) : Except PatternError Pattern :=
  readFrom none 0 text.toList

/-- Does the piece stand for this character? -/
def fits (c : Char) : Piece → Bool
  | .char d => c = d
  | .anyChar => true
  | .oneOf negated ranges => (ranges.any fun (a, b) => a ≤ c && c ≤ b) != negated
  | .anyChars => false
  | .anyDirectories => false

/-- Does one of the texts that follow a slash, or the empty text at the end, satisfy `p`? -/
def someDirectory (p : List Char → Bool) : List Char → Bool
  | [] => p []
  | c :: cs => (c = '/' && p cs) || someDirectory p cs

/-- Does one of the ends of a text satisfy `p`? -/
def someEnd (p : List Char → Bool) : List Char → Bool
  | [] => p []
  | c :: cs => p (c :: cs) || someEnd p cs

/-- Does the pattern stand for this text? -/
def matchesChars : Pattern → List Char → Bool
  | [], cs => cs.isEmpty
  | .anyChars :: ps, cs => someEnd (matchesChars ps) cs
  | .anyDirectories :: ps, cs => matchesChars ps cs || someDirectory (matchesChars ps) cs
  | _ :: _, [] => false
  | p :: ps, c :: cs => fits c p && matchesChars ps cs

/-- Does the pattern stand for this path? -/
def matchesPath (p : Pattern) (path : String) : Bool :=
  matchesChars p path.toList

end Pattern

end Marginalia.Path
