import Marginalia.Passage.Classify

/-!
Files cut into passages. Blank lines outside comments go with their neighbours, and lines of one
kind that follow each other make a passage. A fold that a comment asks for waits for the next code.
-/

namespace Marginalia.Passage

/-- A line whose kind is settled. -/
structure Settled where
  kind : Kind
  line : Line
  fold : Bool
  deriving DecidableEq, Repr

/-- The kind of a blank line between lines of the given kinds, where there are such: prose between
prose and at the end after prose, what follows at the start of the file, else code. -/
def blankKind : (before after : Option Kind) → Kind
  | some .prose, some .prose => .prose
  | some .prose, none => .prose
  | some _, _ => .code
  | none, some k => k
  | none, none => .code

/-- A run of blank lines, all of one kind. -/
def fill (k : Kind) (blanks : List Classified) : List Settled :=
  blanks.map fun c => ⟨k, c.line, c.fold⟩

/-- Fills the runs of lines without a kind. `before` is the kind of the last line that had one, and
`blanks` is the run that ends here. -/
def settleFrom (before : Option Kind) (blanks : List Classified) : List Classified → List Settled
  | [] => fill (blankKind before none) blanks
  | c :: rest =>
    match c.kind with
    | none => settleFrom before (blanks ++ [c]) rest
    | some k =>
      fill (blankKind before (some k)) blanks ++ ⟨k, c.line, c.fold⟩ :: settleFrom (some k) [] rest

/-- Gives every line a kind. `before` is the kind of the last line before them. -/
def settle (before : Option Kind) (cs : List Classified) : List Settled :=
  settleFrom before [] cs

/-- Passages in the making, the last one first. `pending` says that a line asked to fold code and no
passage of code began since. -/
structure Draft where
  passages : List Passage := []
  pending : Bool := false

/-- A line begins a passage. Code takes the pending fold with it. -/
def Draft.begin (d : Draft) (number : Nat) (s : Settled) : Draft :=
  { passages :=
      { kind := s.kind
        start := number
        lines := [s.line]
        folded := s.kind = .code && d.pending } :: d.passages
    pending := s.kind ≠ .code && d.pending || s.fold }

/-- A line goes with the last passage if that is of its kind. -/
def Draft.add (d : Draft) (number : Nat) (s : Settled) : Draft :=
  match d.passages with
  | [] => d.begin number s
  | p :: earlier =>
    if p.kind = s.kind then
      { passages := { p with lines := p.lines ++ [s.line] } :: earlier
        pending := d.pending || s.fold }
    else d.begin number s

def Draft.addAll (d : Draft) (number : Nat) : List Settled → Draft
  | [] => d
  | s :: rest => (d.add number s).addAll (number + 1) rest

/-- Lines of one kind that follow each other make a passage. -/
def coalesce (lines : List Settled) : List Passage :=
  (Draft.addAll {} 1 lines).passages.reverse

/-- The passages of a file. -/
def segment (l : Language) (text : String) : List Passage :=
  coalesce (settle none (classify l text))

end Marginalia.Passage
