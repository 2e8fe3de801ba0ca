/-!
Reports on a build: files that were left out and links that lead nowhere.
-/

namespace Marginalia

/-- Why a file was left out. -/
inductive SkipReason where
  /-- No language claims it. -/
  | unrecognized
  | unreadable (reason : String)
  deriving DecidableEq, Repr

/-- The wording of a reason. -/
def SkipReason.message : SkipReason → String
  | .unrecognized => "unrecognized language"
  | .unreadable reason => "unreadable: " ++ reason

/-- A file that was left out. -/
structure SkippedFile where
  path : String
  reason : SkipReason
  deriving DecidableEq, Repr

/-- A link to a file that the site does not hold. -/
structure BrokenLink where
  /-- The file the link stands in. -/
  path : String
  line : Nat
  /-- The destination as it is written. -/
  target : String
  deriving DecidableEq, Repr

/-- Where the link stands. -/
def BrokenLink.place (l : BrokenLink) : String :=
  l.path ++ ":" ++ Nat.repr l.line

/-- What a build has to report. -/
structure Report where
  skipped : List SkippedFile := []
  broken : List BrokenLink := []
  deriving DecidableEq, Repr

namespace Report

/-- Adds a file that was left out. -/
def skip (r : Report) (path : String) (reason : SkipReason) : Report :=
  { r with skipped := r.skipped ++ [⟨path, reason⟩] }

/-- Adds a broken link. -/
def addBroken (r : Report) (l : BrokenLink) : Report :=
  { r with broken := r.broken ++ [l] }

/-- Adds all of another report. -/
def append (r s : Report) : Report :=
  ⟨r.skipped ++ s.skipped, r.broken ++ s.broken⟩

/-- The files that no language claims. -/
def unrecognized (r : Report) : List SkippedFile :=
  r.skipped.filter (·.reason = .unrecognized)

/-- How much there is to report. -/
def size (r : Report) : Nat :=
  r.skipped.length + r.broken.length

/-- A line of a list. -/
def entry (front back : String) : String :=
  "  " ++ front ++ ": " ++ back ++ "\n"

/-- The report as text. -/
def text (r : Report) : String :=
  let skipped :=
    if r.skipped.isEmpty then ""
    else "skipped " ++ Nat.repr r.skipped.length ++ " file(s):\n" ++
      String.join (r.skipped.map fun f => entry f.path f.reason.message)
  let broken :=
    if r.broken.isEmpty then ""
    else Nat.repr r.broken.length ++ " broken link(s):\n" ++
      String.join (r.broken.map fun l => entry l.place l.target)
  skipped ++ broken

end Report

end Marginalia
