import Marginalia.Passage.Comment

/-!
What each line of a file is. A line outside comments that is blank is left undecided; its neighbours
settle it.
-/

namespace Marginalia.Passage
open Text

/-- A line with what it is. -/
structure Classified where
  /-- `none` for a blank line outside comments. -/
  kind : Option Kind
  line : Line
  /-- Does it ask to fold the code that follows? -/
  fold : Bool := false
  deriving DecidableEq, Repr

/-- Where the reader stands between two lines. -/
inductive State where
  | outside
  /-- In a comment, so many openings deep. -/
  | inside (comment : BlockComment) (depth : Nat)
  deriving DecidableEq, Repr

/-- A line that is code. -/
def codeLine (cs : List Char) : Classified :=
  { kind := some .code, line := .plain cs }

/-- A line whose text from `start` to before `stop` is prose. -/
def proseLine (cs : List Char) (start stop : Nat) : Classified :=
  { kind := some .prose, line := .cut cs start stop }

/-- Does the text start with a mark that is given and not empty? -/
def bears (mark : Option String) (cs : List Char) : Bool :=
  mark.any (Language.marks · cs)

/-- A line with a comment marker at `indent`, which runs to the end of the line. -/
def lineComment (l : Language) (cs : List Char) (indent : Nat) (marker : String) : Classified :=
  let start := indent + marker.length
  let body := cs.drop start
  if bears l.ignoreMark body then codeLine cs
  else if bears l.foldMark body then
    let start := start + (l.foldMark.getD "").length
    { proseLine cs (start + leadingBlank (cs.drop start)) cs.length with fold := true }
  else proseLine cs (start + leadingBlank body) cs.length

/-- Does anything but blanks follow the closing marker at `close`? -/
def codeAfter (b : BlockComment) (cs : List Char) (close : Nat) : Bool :=
  !allBlank (cs.drop (close + b.closing.length))

/-- A line with an opening marker at `indent`. If the comment ends on the line and code follows, the
line is code. -/
def openComment (l : Language) (cs : List Char) (indent : Nat) (b : BlockComment) :
    Classified × State :=
  let bodyStart := indent + b.opening.length
  match findClose b (nests l b) 0 1 (cs.drop bodyStart) with
  | .ok offset =>
    let close := bodyStart + offset
    if codeAfter b cs close then (codeLine cs, .outside)
    else
      let start := bodyStart + openingStart b ((cs.take close).drop bodyStart)
      let stop := close - trailingBlank ((cs.take close).drop start)
      (proseLine cs start stop, .outside)
  | .error depth =>
    let start := bodyStart + openingStart b (cs.drop bodyStart)
    (proseLine cs start cs.length, .inside b depth)

/-- A line that starts inside a comment. -/
def insideComment (l : Language) (cs : List Char) (b : BlockComment) (depth : Nat) :
    Classified × State :=
  match findClose b (nests l b) 0 depth cs with
  | .ok close =>
    if codeAfter b cs close then (codeLine cs, .outside)
    else
      let start := interiorStart b (cs.take close)
      let stop := close - trailingBlank ((cs.take close).drop start)
      (proseLine cs start stop, .outside)
  | .error depth => (proseLine cs (interiorStart b cs) cs.length, .inside b depth)

/-- A line that starts outside comments. The longer marker counts, the opening one of two equally
long. On the first line of a file `#!` is code. -/
def outsideComment (l : Language) (first : Bool) (cs : List Char) : Classified × State :=
  let trimmed := trimStart cs
  let indent := cs.length - trimmed.length
  if trimmed.isEmpty then ({ kind := none, line := .plain cs }, .outside)
  else if first && startsWith ['#', '!'] trimmed then (codeLine cs, .outside)
  else
    match l.lineMarker? trimmed, l.blockOpening? trimmed with
    | some marker, some b =>
      if b.opening.length < marker.length then (lineComment l cs indent marker, .outside)
      else openComment l cs indent b
    | none, some b => openComment l cs indent b
    | some marker, none => (lineComment l cs indent marker, .outside)
    | none, none => (codeLine cs, .outside)

/-- One line, and where the reader stands after it. -/
def classifyLine (l : Language) (first : Bool) (state : State) (cs : List Char) :
    Classified × State :=
  if l.proseOnly then ({ kind := some .prose, line := .plain cs }, state)
  else match state with
    | .outside => outsideComment l first cs
    | .inside b depth => insideComment l cs b depth

/-- The lines, read from the state on. -/
def classifyFrom (l : Language) : (first : Bool) → State → List (List Char) → List Classified
  | _, _, [] => []
  | first, state, cs :: rest =>
    let (c, next) := classifyLine l first state cs
    c :: classifyFrom l false next rest

/-- The lines of a file. -/
def classify (l : Language) (text : String) : List Classified :=
  classifyFrom l true .outside (Text.lines text.toList)

end Marginalia.Passage
