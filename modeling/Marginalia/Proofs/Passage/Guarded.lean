import Marginalia.Proofs.Passage.Depth
import Marginalia.Proofs.Passage.Stripping
import Marginalia.Proofs.Text.Offset

/-! The reader of comments once more, now by byte offsets and with a guard at every operation that may
not be defined: a cut inside a character or outside the line, a difference below zero, a comment of
depth zero, a loop that takes more rounds than the line has characters. For every language, whatever its
markers, no guard is met, and what is read is the same. -/
namespace Marginalia.Passage.Guarded
open Text Marginalia.Language
set_option autoImplicit false

/-! ## The reader by offsets -/

/-- Looks for the closing marker from an offset on, in so many rounds. -/
def scan (b : BlockComment) (nested : Bool) (text : List Char) :
    (rounds i depth : Nat) → Option (Except Nat Nat)
  | 0, _, _ => none
  | rounds + 1, i, depth =>
    if i < byteSize text then do
      let rest ← from? i text
      if startsWith b.closing.toList rest then
        let left ← minus? depth 1
        if left = 0 then some (.ok i)
        else scan b nested text rounds (i + byteSize b.closing.toList) left
      else if nested && b.opening ≠ b.closing && startsWith b.opening.toList rest then
        scan b nested text rounds (i + byteSize b.opening.toList) (depth + 1)
      else scan b nested text rounds (i + (rest.head?.map Char.utf8Size).getD 1) depth
    else some (.error depth)

/-- Looks for the closing marker in the text. -/
def findClose (b : BlockComment) (nested : Bool) (depth : Nat) (text : List Char) :
    Option (Except Nat Nat) :=
  if depth = 0 then none else scan b nested text (text.length + 1) 0 depth

/-- The size of the character, if there is one and it is blank. -/
def blankSize : Option Char → Nat
  | some c => if isBlank c then c.utf8Size else 0
  | none => 0

/-- The line whose text goes from `start` to before `stop`. -/
def cut (cs : List Char) (start stop : Nat) : Option Line := do
  let lead ← slice? 0 start cs
  let content ← slice? start stop cs
  let trail ← from? stop cs
  some { lead := String.ofList lead, content := String.ofList content, trail := String.ofList trail }

/-- A line whose text from `start` to before `stop` is prose. -/
def proseLine (cs : List Char) (start stop : Nat) : Option Classified := do
  let line ← cut cs start stop
  some { kind := some .prose, line }

/-- A line with a comment marker at `indent`. -/
def lineComment (l : Language) (cs : List Char) (indent : Nat) (marker : String) :
    Option Classified := do
  let start := indent + byteSize marker.toList
  let body ← from? start cs
  if bears l.ignoreMark body then some (codeLine cs)
  else
    let fold := bears l.foldMark body
    let start := if fold then start + byteSize (l.foldMark.getD "").toList else start
    let rest ← from? start cs
    let prose ← proseLine cs (start + blankSize rest.head?) (byteSize cs)
    some { prose with fold }

/-- The offset behind copies of the middle marker, found in so many rounds. -/
def skipMiddle (middle cs : List Char) (stop : Nat) : (rounds start : Nat) → Option Nat
  | 0, _ => none
  | rounds + 1, start => do
    let rest ← slice? start stop cs
    if startsWith middle rest then skipMiddle middle cs stop rounds (start + byteSize middle)
    else some start

/-- The offset behind copies of the middle marker, unless that is empty. -/
def middleEnd (b : BlockComment) (cs : List Char) (start stop : Nat) : Option Nat :=
  if middleMark b = [] then some start
  else skipMiddle (middleMark b) cs stop (cs.length + 1) start

/-- Where the text of an opening line starts. -/
def openingStart (b : BlockComment) (cs : List Char) (start stop : Nat) : Option Nat := do
  let start ← middleEnd b cs start stop
  let rest ← slice? start stop cs
  some (start + blankSize rest.head?)

/-- Where the text of a line inside a comment starts. -/
def interiorStart (b : BlockComment) (cs : List Char) : Option Nat := do
  let trimmed := trimStart cs
  let start ← minus? (byteSize cs) (byteSize trimmed)
  if middleMark b ≠ [] && startsWith (middleMark b) trimmed then
    let start := start + byteSize (middleMark b)
    let rest ← from? start cs
    some (start + blankSize rest.head?)
  else some start

/-- Does anything but blanks follow the closing marker at `close`? -/
def codeAfter (b : BlockComment) (cs : List Char) (close : Nat) : Option Bool := do
  let rest ← from? (close + byteSize b.closing.toList) cs
  some (!allBlank rest)

/-- A line whose text starts at `start` and ends before the closing marker at `close`. -/
def endedLine (cs : List Char) (start close : Nat) : Option (Classified × State) := do
  let text ← slice? start close cs
  let stop ← minus? close (blankSize text.getLast?)
  let prose ← proseLine cs start stop
  some (prose, .outside)

/-- A line with an opening marker at `indent`. -/
def openComment (l : Language) (cs : List Char) (indent : Nat) (b : BlockComment) :
    Option (Classified × State) := do
  let bodyStart := indent + byteSize b.opening.toList
  let body ← from? bodyStart cs
  match ← findClose b l.nested 1 body with
  | .ok place =>
    let close := bodyStart + place
    if ← codeAfter b cs close then some (codeLine cs, .outside)
    else
      let start ← openingStart b cs bodyStart close
      endedLine cs start close
  | .error depth =>
    let start ← openingStart b cs bodyStart (byteSize cs)
    let prose ← proseLine cs start (byteSize cs)
    some (prose, .inside b depth)

/-- A line that starts inside a comment. -/
def insideComment (l : Language) (cs : List Char) (b : BlockComment) (depth : Nat) :
    Option (Classified × State) := do
  match ← findClose b l.nested depth cs with
  | .ok close =>
    if ← codeAfter b cs close then some (codeLine cs, .outside)
    else
      let front ← slice? 0 close cs
      let start ← interiorStart b front
      endedLine cs start close
  | .error depth =>
    let start ← interiorStart b cs
    let prose ← proseLine cs start (byteSize cs)
    some (prose, .inside b depth)

/-- Does the text start with a comment of this kind? -/
def opens (text : List Char) (b : BlockComment) : Option Bool :=
  if marks b.opening text then do
    let rest ← from? (byteSize b.opening.toList) text
    some (!continuesRun b.opening rest)
  else some false

/-- The comments that the text starts with. -/
def openings (text : List Char) : List BlockComment → Option (List BlockComment)
  | [] => some []
  | b :: bs => do
    let fits ← opens text b
    let others ← openings text bs
    some (if fits then b :: others else others)

/-- The line, read by the longer one of the markers that it may start with. -/
def readBy (l : Language) (cs : List Char) (indent : Nat) :
    Option String → Option BlockComment → Option (Classified × State)
  | some marker, some b =>
    if byteSize b.opening.toList < byteSize marker.toList then
      (lineComment l cs indent marker).map (·, .outside)
    else openComment l cs indent b
  | none, some b => openComment l cs indent b
  | some marker, none => (lineComment l cs indent marker).map (·, .outside)
  | none, none => some (codeLine cs, .outside)

/-- A line that starts outside comments. -/
def outsideComment (l : Language) (first : Bool) (cs : List Char) : Option (Classified × State) := do
  let trimmed := trimStart cs
  let indent ← minus? (byteSize cs) (byteSize trimmed)
  if trimmed.isEmpty then some ({ kind := none, line := .plain cs }, .outside)
  else if first && startsWith ['#', '!'] trimmed then some (codeLine cs, .outside)
  else
    let fitting ← openings trimmed l.blockComments
    readBy l cs indent
      (largest? (fun m => byteSize m.toList) (l.lineComments.filter (marks · trimmed)))
      (largest? (fun b => byteSize b.opening.toList) fitting)

/-- One line, and where the reader stands after it. -/
def classifyLine (l : Language) (first : Bool) (state : State) (cs : List Char) :
    Option (Classified × State) :=
  if l.proseOnly then some ({ kind := some .prose, line := .plain cs }, state)
  else match state with
    | .outside => outsideComment l first cs
    | .inside b depth => insideComment l cs b depth

/-- The lines, read from the state on. -/
def classifyFrom (l : Language) :
    (first : Bool) → State → List (List Char) → Option (List Classified)
  | _, _, [] => some []
  | first, state, cs :: rest => do
    let read ← classifyLine l first state cs
    let others ← classifyFrom l false read.2 rest
    some (read.1 :: others)

/-- The lines of a file. -/
def classify (l : Language) (text : String) : Option (List Classified) :=
  classifyFrom l true .outside (Text.lines text.toList)

/-! ## Where a comment closes -/

theorem findClose_skip (b : BlockComment) (nesting : Bool) (skip depth : Nat) (cs : List Char) :
    Passage.findClose b nesting skip depth cs =
      (Passage.findClose b nesting 0 depth (cs.drop skip)).map (· + skip) := by
  induction cs generalizing skip with
  | nil => simp [Passage.findClose, Except.map]
  | cons c cs ih =>
    cases skip with
    | zero =>
      rw [List.drop_zero]
      cases Passage.findClose b nesting 0 depth (c :: cs) <;> rfl
    | succ skip =>
      rw [Passage.findClose, ih, List.drop_succ_cons]
      cases Passage.findClose b nesting 0 depth (cs.drop skip) <;> rfl

/-- Behind what is counted already the search goes on as at the start of a text. -/
theorem findClose_behind {b : BlockComment} {nesting : Bool} {depth n : Nat} (hn : 0 < n) (c : Char)
    (cs : List Char) :
    (Passage.findClose b nesting (n - 1) depth cs).map (· + 1) =
      (Passage.findClose b nesting 0 depth ((c :: cs).drop n)).map (· + n) := by
  obtain ⟨n, rfl⟩ := Nat.exists_eq_add_of_le' hn
  rw [Nat.add_sub_cancel, findClose_skip, List.drop_succ_cons]
  cases Passage.findClose b nesting 0 depth (cs.drop n) <;> rfl

theorem map_offset (text : List Char) (k n : Nat) (found : Except Nat Nat) :
    (found.map (· + n)).map (fun p => offset text (k + p)) =
      found.map fun p => offset text (k + n + p) := by
  cases found with
  | error depth => rfl
  | ok p => rw [Except.map, Except.map, Except.map, Nat.add_assoc, Nat.add_comm n]

/-- With so many rounds left the search finds what it should, from every place that it can reach. -/
def Agrees (b : BlockComment) (l : Language) (text : List Char) (rounds : Nat) : Prop :=
  ∀ k depth, k ≤ text.length → text.length < k + rounds → 1 ≤ depth →
    (b.closing = "" → depth = 1) →
    scan b l.nested text rounds (offset text k) depth =
      some ((Passage.findClose b (nests l b) 0 depth (text.drop k)).map fun p => offset text (k + p))

section Agrees

variable {b : BlockComment} {l : Language} {text cs : List Char} {c : Char} {rounds k : Nat}
  (h : Agrees b l text rounds) (hcs : text.drop k = c :: cs) (hrounds : text.length < k + (rounds + 1))
include h hcs hrounds

theorem Agrees.behind {n depth : Nat} (hn : 0 < n) (hle : n ≤ (c :: cs).length) (hdepth : 1 ≤ depth)
    (hclosing : b.closing = "" → depth = 1) :
    scan b l.nested text rounds (offset text (k + n)) depth =
      some (((Passage.findClose b (nests l b) (n - 1) depth cs).map (· + 1)).map
        fun p => offset text (k + p)) := by
  have hlen := congrArg List.length hcs
  rw [List.length_drop, List.length_cons] at hlen
  rw [List.length_cons] at hle
  rw [findClose_behind hn c, ← hcs, List.drop_drop, map_offset]
  exact h (k + n) depth (by omega) (by omega) hdepth hclosing

theorem Agrees.behind_mark {mark : String} {depth : Nat} (hne : mark ≠ "")
    (hs : startsWith mark.toList (c :: cs) = true) (hdepth : 1 ≤ depth)
    (hclosing : b.closing = "" → depth = 1) :
    scan b l.nested text rounds (offset text k + byteSize mark.toList) depth =
      some (((Passage.findClose b (nests l b) (mark.length - 1) depth cs).map (· + 1)).map
        fun p => offset text (k + p)) := by
  have hle := length_le_of_startsWith hs
  rw [offset_mark (hcs ▸ hs)]
  rw [String.length_toList] at hle ⊢
  exact h.behind hcs hrounds (Nat.pos_of_ne_zero (by simpa using hne)) hle hdepth hclosing

end Agrees

/-- A round moves the search on by at least one character, so there are rounds enough. Only an empty
opening would let it stand still. -/
theorem agrees {b : BlockComment} (hopening : b.opening ≠ "") (l : Language) (text : List Char)
    (rounds : Nat) : Agrees b l text rounds := by
  have hnests : nests l b = (l.nested && decide (b.opening ≠ b.closing)) := by
    simp [nests, hopening]
  induction rounds with
  | zero =>
    intro k depth hk hrounds
    omega
  | succ rounds ih =>
    intro k depth hk hrounds hdepth hclosing
    rw [scan]
    by_cases hlt : k < text.length
    · obtain ⟨c, cs, hcs⟩ := List.exists_cons_of_ne_nil (l := text.drop k) (by simpa using hlt)
      rw [if_pos (offset_lt_iff.mpr hlt), from?_offset, hcs, Passage.findClose, ← hnests]
      simp only [Option.bind_eq_bind, Option.bind_some]
      split
      next hs =>
        rw [minus?_of_le hdepth, Option.bind_some]
        by_cases hone : depth = 1
        · simp [hone, Except.map]
        · have hne : b.closing ≠ "" := fun h => hone (hclosing h)
          rw [if_neg (by omega), if_neg (by simp [hne]; omega)]
          exact ih.behind_mark hcs hrounds hne hs (by omega) fun h => absurd h hne
      next hs =>
        have hne := ne_empty_of_not_startsWith hs
        split
        next ho =>
          have hs := (Bool.and_eq_true_iff.mp ho).2
          exact ih.behind_mark hcs hrounds hopening hs (by omega) fun h => absurd h hne
        next =>
          rw [List.head?_cons, Option.map_some, Option.getD_some, ← offset_one c cs, ← hcs,
            ← offset_add]
          exact ih.behind hcs hrounds Nat.one_pos (by simp) hdepth hclosing
    · rw [if_neg fun h => hlt (offset_lt_iff.mp h), List.drop_eq_nil_of_le (by omega),
        Passage.findClose]
      rfl

theorem findClose_eq {b : BlockComment} (hopening : b.opening ≠ "") (l : Language) {depth : Nat}
    (hdepth : 1 ≤ depth) (hclosing : b.closing = "" → depth = 1) (text : List Char) :
    findClose b l.nested depth text =
      some ((Passage.findClose b (nests l b) 0 depth text).map (offset text)) := by
  have h : scan b l.nested text (text.length + 1) (offset text 0) depth = _ :=
    agrees hopening l text (text.length + 1) 0 depth (Nat.zero_le _) (by omega) hdepth hclosing
  rw [findClose, if_neg (by omega)]
  simpa only [offset_zero, List.drop_zero, Nat.zero_add] using h

-- an empty opening that is counted would be counted for ever
example : findClose { opening := "", closing := "x" } true 1 ['a'] = none := by decide

/-! ## Where a line is cut -/

theorem offset_blank (cs : List Char) (k : Nat) :
    offset cs k + blankSize (cs.drop k).head? = offset cs (k + leadingBlank (cs.drop k)) := by
  rw [offset_add]
  congr 1
  cases cs.drop k with
  | nil => rfl
  | cons c rest =>
    rw [List.head?_cons, blankSize, leadingBlank]
    split
    · rw [offset_one]
    · rfl

theorem minus?_trailing {cs : List Char} {i j : Nat} (hj : j ≤ cs.length) :
    minus? (offset cs j) (blankSize ((cs.take j).drop i).getLast?) =
      some (offset cs (j - trailingBlank ((cs.take j).drop i))) := by
  rw [trailingBlank, ← List.head?_reverse]
  cases hr : ((cs.take j).drop i).reverse with
  | nil => exact minus?_of_le (Nat.zero_le _)
  | cons c mid =>
    rw [List.head?_cons, blankSize, leadingBlank]
    split
    · obtain ⟨n, rfl⟩ : ∃ n, j = n + 1 := Nat.exists_eq_succ_of_ne_zero (by rintro rfl; simp at hr)
      have htake : (cs.take (n + 1)).take i ++ mid.reverse ++ [c] = cs.take n ++ [cs[n]] := by
        rw [List.append_assoc, ← List.reverse_cons, ← hr, List.reverse_reverse, List.take_append_drop,
          List.take_succ_eq_append_getElem]
      have hc : c = cs[n] := List.singleton_inj.mp (List.append_inj' htake rfl).2
      have hsize : offset cs (n + 1) = offset cs n + c.utf8Size := by
        rw [offset_add, List.drop_eq_getElem_cons hj, ← hc, offset_one]
      rw [hsize, minus?_of_le (Nat.le_add_left ..), Nat.add_sub_cancel, Nat.add_sub_cancel]
    · exact minus?_of_le (Nat.zero_le _)

theorem drop_to_indent (cs : List Char) : cs.drop (cs.length - (trimStart cs).length) = trimStart cs :=
  drop_indent cs 0

theorem minus?_indent (cs : List Char) : minus? (byteSize cs) (byteSize (trimStart cs)) =
    some (offset cs (cs.length - (trimStart cs).length)) := by
  have hsize : byteSize cs =
      offset cs (cs.length - (trimStart cs).length) + byteSize (trimStart cs) := by
    have hsplit := congrArg byteSize (List.take_append_drop (cs.length - (trimStart cs).length) cs)
    rwa [byteSize_append, drop_to_indent, eq_comm] at hsplit
  rw [hsize, minus?_of_le (Nat.le_add_left ..), Nat.add_sub_cancel]

theorem cut_eq (cs : List Char) {i j : Nat} (h : i ≤ j) :
    cut cs (offset cs i) (offset cs j) = some (.cut cs i j) := by
  have hlead : slice? 0 (offset cs i) cs = some (cs.take i) := slice?_offset (Nat.zero_le i)
  rw [cut, hlead, slice?_offset h, from?_offset]
  rfl

theorem proseLine_eq (cs : List Char) {i j : Nat} (h : i ≤ j) :
    proseLine cs (offset cs i) (offset cs j) = some (Passage.proseLine cs i j) := by
  rw [proseLine, cut_eq cs h]
  rfl

theorem endedLine_eq {cs : List Char} {i j : Nat} (hi : i ≤ j) (hj : j ≤ cs.length) :
    endedLine cs (offset cs i) (offset cs j) =
      some (Passage.proseLine cs i (j - trailingBlank ((cs.take j).drop i)), .outside) := by
  rw [endedLine, slice?_offset hi]
  simp only [Option.bind_eq_bind, Option.bind_some]
  rw [minus?_trailing hj, Option.bind_some, proseLine_eq cs (start_le_stop hi)]
  rfl

theorem codeAfter_eq {b : BlockComment} {cs : List Char} {j : Nat}
    (h : startsWith b.closing.toList (cs.drop j) = true) :
    codeAfter b cs (offset cs j) = some (Passage.codeAfter b cs j) := by
  rw [codeAfter, offset_mark h, from?_offset, String.length_toList]
  rfl

theorem skipMiddle_eq {middle : List Char} (hne : middle ≠ []) (cs : List Char) {rounds j k : Nat}
    (hk : k ≤ j) (hj : j ≤ cs.length) (hrounds : j < k + rounds) :
    skipMiddle middle cs (offset cs j) rounds (offset cs k) =
      some (offset cs (k + middleRun middle 0 ((cs.take j).drop k))) := by
  induction rounds generalizing k with
  | zero => omega
  | succ rounds ih =>
    rw [skipMiddle, slice?_offset hk]
    simp only [Option.bind_eq_bind, Option.bind_some]
    split
    next hs =>
      obtain ⟨rest, hrest⟩ := startsWith_iff.mp hs
      have hlen := congrArg List.length hrest
      rw [List.length_append, List.length_drop, List.length_take] at hlen
      have hpos := List.length_pos_of_ne_nil hne
      have hline : startsWith middle (cs.drop k) = true := by
        rw [startsWith_iff] at hs ⊢
        rw [List.drop_take] at hs
        exact hs.trans (List.take_prefix ..)
      rw [offset_mark hline, ih (by omega) (by omega), ← List.drop_drop, ← hrest, List.drop_left,
        middleRun_append hne, Nat.add_assoc]
    next hs => rw [middleRun_of_not fun h => hs (startsWith_iff.mpr h.2), Nat.add_zero]

theorem middleEnd_eq (b : BlockComment) {cs : List Char} {i j : Nat} (hi : i ≤ j)
    (hj : j ≤ cs.length) : middleEnd b cs (offset cs i) (offset cs j) =
      some (offset cs (i + middleRun (middleMark b) 0 ((cs.take j).drop i))) := by
  rw [middleEnd]
  split
  next hempty => rw [middleRun_of_not fun h => h.1 hempty, Nat.add_zero]
  next hne => exact skipMiddle_eq hne cs hi hj (by omega)

theorem openingStart_eq (b : BlockComment) {cs : List Char} {i j : Nat} (hi : i ≤ j)
    (hj : j ≤ cs.length) :
    openingStart b cs (offset cs i) (offset cs j) =
      some (offset cs (i + Passage.openingStart b ((cs.take j).drop i))) := by
  have hle := Passage.openingStart_le b ((cs.take j).drop i)
  rw [openingStart, middleEnd_eq b hi hj]
  rw [Passage.openingStart] at hle ⊢
  simp only [Option.bind_eq_bind, Option.bind_some, List.drop_drop, List.length_drop,
    List.length_take] at hle ⊢
  generalize middleRun (middleMark b) 0 ((cs.take j).drop i) = run at hle ⊢
  have hblank := offset_blank (cs.take j) (i + run)
  rw [offset_take (by omega), offset_take (by omega)] at hblank
  rw [slice?_offset (by omega), Option.bind_some, hblank, Nat.add_assoc]

theorem interiorStart_eq (b : BlockComment) (cs : List Char) :
    interiorStart b cs = some (offset cs (Passage.interiorStart b cs)) := by
  rw [interiorStart, minus?_indent, Passage.interiorStart]
  simp only [Option.bind_eq_bind, Option.bind_some]
  cases ha : after? (middleMark b) (trimStart cs) with
  | none => simp [startsWith, ha]
  | some rest =>
    have hrest := after?_eq_some_iff.mp ha
    have hs : startsWith (middleMark b) (trimStart cs) = true := by rw [startsWith, ha]; rfl
    by_cases hempty : middleMark b = []
    · simp [hempty]
    · have hbehind : cs.drop (cs.length - (trimStart cs).length + (middleMark b).length) = rest := by
        rw [drop_indent, hrest, List.drop_left]
      rw [if_pos (by simp [hempty, hs]), offset_mark (by rwa [drop_to_indent]), from?_offset,
        Option.bind_some, offset_blank, hbehind]
      simp [hempty]

/-! ## Lines with comments -/

theorem lineComment_eq (l : Language) {cs : List Char} {k : Nat} (hk : k ≤ cs.length)
    {marker : String} (h : startsWith marker.toList (cs.drop k) = true) :
    lineComment l cs (offset cs k) marker = some (Passage.lineComment l cs k marker) := by
  have hle := length_le_of_startsWith h
  rw [List.length_drop, String.length_toList] at hle
  rw [lineComment, offset_mark h, String.length_toList, Passage.lineComment]
  simp only [from?_offset, Option.bind_eq_bind, Option.bind_some]
  split
  · rfl
  · -- the text of the comment starts here, or behind the mark that asks to fold
    have htext : ∀ n fold, k + marker.length + n ≤ cs.length →
        ((from? (offset cs (k + marker.length + n)) cs).bind fun rest =>
          (proseLine cs (offset cs (k + marker.length + n) + blankSize rest.head?) (byteSize cs)).bind
            fun prose => some { prose with fold }) =
        some { Passage.proseLine cs (k + marker.length + n +
          leadingBlank (cs.drop (k + marker.length + n))) cs.length with fold } := by
      intro n fold hn
      have hblank := leadingBlank_le (cs.drop (k + marker.length + n))
      rw [List.length_drop] at hblank
      rw [from?_offset, Option.bind_some, offset_blank, ← offset_length, proseLine_eq cs (by omega)]
      rfl
    cases hf : bears l.foldMark (cs.drop (k + marker.length)) with
    | true =>
      obtain ⟨m, hm, -, hstart⟩ := bears_iff.mp hf
      have hs := startsWith_iff.mpr hstart
      have hn := length_le_of_startsWith hs
      rw [List.length_drop, String.length_toList] at hn
      rw [hm, Option.getD_some, if_pos rfl, if_pos rfl, offset_mark hs, String.length_toList]
      exact htext m.length true (by omega)
    | false =>
      rw [if_neg (by simp), if_neg (by simp)]
      exact htext 0 false (by omega)

theorem openComment_eq (l : Language) {cs : List Char} {k : Nat} {b : BlockComment}
    (hne : b.opening ≠ "") (h : startsWith b.opening.toList (cs.drop k) = true) :
    openComment l cs (offset cs k) b = some (Passage.openComment l cs k b) := by
  have hlen := length_le_of_startsWith h
  rw [List.length_drop, String.length_toList] at hlen
  have hpos : 0 < b.opening.length := Nat.pos_of_ne_zero (by simpa using hne)
  rw [openComment, offset_mark h, String.length_toList]
  simp only [from?_offset, Option.bind_eq_bind, Option.bind_some]
  rw [findClose_eq hne l le_rfl fun _ => rfl, Option.bind_some, Passage.openComment]
  cases hf : Passage.findClose b (nests l b) 0 1 (cs.drop (k + b.opening.length)) with
  | ok place =>
    obtain ⟨hlt, hs⟩ := findClose_ok hf
    rw [List.length_drop] at hlt
    rw [List.drop_drop] at hs
    simp only [Except.map, ← offset_add]
    rw [codeAfter_eq hs, Option.bind_some]
    split
    · rfl
    · have hle := Passage.openingStart_le b
        ((cs.take (k + b.opening.length + place)).drop (k + b.opening.length))
      rw [List.length_drop, List.length_take] at hle
      rw [openingStart_eq b (by omega) (by omega), Option.bind_some,
        endedLine_eq (by omega) (by omega)]
  | error depth =>
    have hle := Passage.openingStart_le b (cs.drop (k + b.opening.length))
    rw [List.length_drop] at hle
    simp only [Except.map, ← offset_length]
    rw [openingStart_eq b (by omega) le_rfl, List.take_length, Option.bind_some,
      proseLine_eq cs (by omega)]
    rfl

theorem insideComment_eq (l : Language) (cs : List Char) {b : BlockComment} {depth : Nat}
    (hopening : b.opening ≠ "") (hdepth : 1 ≤ depth) (hclosing : b.closing = "" → depth = 1) :
    insideComment l cs b depth = some (Passage.insideComment l cs b depth) := by
  rw [insideComment, findClose_eq hopening l hdepth hclosing, Passage.insideComment]
  simp only [Option.bind_eq_bind, Option.bind_some]
  cases hf : Passage.findClose b (nests l b) 0 depth cs with
  | ok close =>
    obtain ⟨hlt, hs⟩ := findClose_ok hf
    have hle := interiorStart_le b (cs.take close)
    rw [List.length_take] at hle
    have hfront : slice? 0 (offset cs close) cs = some (cs.take close) :=
      slice?_offset (Nat.zero_le close)
    simp only [Except.map]
    rw [codeAfter_eq hs, Option.bind_some, hfront, Option.bind_some, interiorStart_eq,
      Option.bind_some, offset_take (by omega), endedLine_eq (by omega) hlt.le]
    split <;> rfl
  | error left =>
    simp only [Except.map, ← offset_length]
    rw [interiorStart_eq, Option.bind_some, proseLine_eq cs (interiorStart_le b cs)]
    rfl

/-! ## Markers at the start of a line -/

theorem opens_eq (text : List Char) (b : BlockComment) :
    opens text b = some (Language.opens b text) := by
  rw [opens, marks, Language.opens]
  cases ha : after? b.opening.toList text with
  | none => simp [startsWith, ha]
  | some rest =>
    have hfrom : from? (byteSize b.opening.toList) text = some rest := by
      rw [from?, splitAt?_eq_some_iff.mpr ⟨rfl, after?_eq_some_iff.mp ha⟩]
      rfl
    rw [startsWith, ha, hfrom]
    by_cases hne : b.opening = "" <;> simp [hne]

theorem openings_eq (text : List Char) (bs : List BlockComment) :
    openings text bs = some (bs.filter (Language.opens · text)) := by
  induction bs with
  | nil => rfl
  | cons b bs ih =>
    rw [openings, opens_eq, ih, List.filter_cons]
    rfl

theorem largest?_congr {α : Type} {f g : α → Nat} {as : List α}
    (h : ∀ a ∈ as, ∀ b ∈ as, f b < f a ↔ g b < g a) : largest? f as = largest? g as := by
  induction as with
  | nil => rfl
  | cons a as ih =>
    have hrest := ih fun x hx y hy => h x (List.mem_cons_of_mem a hx) y (List.mem_cons_of_mem a hy)
    rw [largest?, largest?, hrest]
    cases hl : largest? g as with
    | none => rfl
    | some b =>
      have hab := h a (List.mem_cons_self ..) b (List.mem_cons_of_mem a (largest?_mem hl))
      simp only [hab]

theorem lineMarker?_eq (l : Language) (text : List Char) :
    largest? (fun m => byteSize m.toList) (l.lineComments.filter (marks · text)) =
      l.lineMarker? text := by
  refine largest?_congr fun a ha b hb => ?_
  have hstart : ∀ {m}, m ∈ l.lineComments.filter (marks · text) → m.toList <+: text := fun hm =>
    (marks_iff.mp (List.mem_filter.mp hm).2).2
  rw [byteSize_lt_iff (hstart hb) (hstart ha), String.length_toList, String.length_toList]

theorem blockOpening?_eq (l : Language) (text : List Char) :
    largest? (fun b => byteSize b.opening.toList) (l.blockComments.filter (Language.opens · text)) =
      l.blockOpening? text := by
  refine largest?_congr fun a ha b hb => ?_
  have hstart : ∀ {b}, b ∈ l.blockComments.filter (Language.opens · text) →
      b.opening.toList <+: text := by
    intro b hm
    obtain ⟨-, rest, hrest, -⟩ := opens_iff.mp (List.mem_filter.mp hm).2
    exact ⟨rest, hrest.symm⟩
  rw [byteSize_lt_iff (hstart hb) (hstart ha), String.length_toList, String.length_toList]

theorem readBy_eq (l : Language) (cs : List Char) :
    readBy l cs (offset cs (cs.length - (trimStart cs).length)) (l.lineMarker? (trimStart cs))
        (l.blockOpening? (trimStart cs)) =
      some (Passage.readBy l cs (l.marker? (trimStart cs))) := by
  have hstart : ∀ {m}, Fits l (trimStart cs) m →
      startsWith m.text.toList (cs.drop (cs.length - (trimStart cs).length)) = true := by
    intro m hm
    rw [drop_to_indent, startsWith_iff]
    exact hm.prefix_text
  have hline : ∀ {marker}, Fits l (trimStart cs) (.line marker) →
      (lineComment l cs (offset cs (cs.length - (trimStart cs).length)) marker).map (·, State.outside) =
        some (Passage.readBy l cs (some (.line marker))) := by
    intro marker hm
    exact congrArg (Option.map (·, State.outside)) (lineComment_eq l (Nat.sub_le ..) (hstart hm))
  have hblock : ∀ {b}, Fits l (trimStart cs) (.block b) →
      openComment l cs (offset cs (cs.length - (trimStart cs).length)) b =
        some (Passage.readBy l cs (some (.block b))) := by
    intro b hb
    have hs := hstart hb
    cases hb with
    | block _ hne => exact openComment_eq l hne hs
  rw [marker?]
  cases hm : l.lineMarker? (trimStart cs) with
  | none =>
    cases hb : l.blockOpening? (trimStart cs) with
    | none => rfl
    | some b => exact hblock (blockOpening?_longest hb).1
  | some marker =>
    have hfm := (lineMarker?_longest hm).1
    cases hb : l.blockOpening? (trimStart cs) with
    | none => exact hline hfm
    | some b =>
      have hfb := (blockOpening?_longest hb).1
      have hlt : byteSize b.opening.toList < byteSize marker.toList ↔
          b.opening.length < marker.length := by
        rw [← String.length_toList, ← String.length_toList]
        exact byteSize_lt_iff hfb.prefix_text hfm.prefix_text
      rw [readBy]
      simp only [hlt]
      split
      · exact hline hfm
      · exact hblock hfb

theorem outsideComment_eq (l : Language) (first : Bool) (cs : List Char) :
    outsideComment l first cs = some (Passage.outsideComment l first cs) := by
  have hempty : (trimStart cs).isEmpty = allBlank cs := by
    rw [Bool.eq_iff_iff, List.isEmpty_iff, trimStart_eq_nil_iff]
  rw [outsideComment, minus?_indent, Passage.outsideComment_eq, hempty, isShebang]
  simp only [Option.bind_eq_bind, Option.bind_some, openings_eq, lineMarker?_eq, blockOpening?_eq,
    readBy_eq]
  split
  · rfl
  · split <;> rfl

/-! ## All lines -/

theorem classifyLine_eq (l : Language) (first : Bool) {state : State} (h : Sound l state)
    (cs : List Char) :
    classifyLine l first state cs = some (Passage.classifyLine l first state cs) := by
  unfold classifyLine Passage.classifyLine
  split
  · rfl
  · cases state with
    | outside => exact outsideComment_eq l first cs
    | inside b depth => exact insideComment_eq l cs h.1 h.2.1 fun hc => h.2.2 (.inr hc)

theorem classifyFrom_eq (l : Language) (first : Bool) {state : State} (h : Sound l state)
    (lines : List (List Char)) :
    classifyFrom l first state lines = some (Passage.classifyFrom l first state lines) := by
  induction lines generalizing first state with
  | nil => rfl
  | cons cs lines ih =>
    rw [classifyFrom, classifyLine_eq l first h]
    simp only [Option.bind_eq_bind, Option.bind_some]
    rw [ih false (classifyLine_sound l first h cs)]
    rfl

/-- For every language and every text the guarded reader reads what the reader reads. Wherever the
reader stands in a comment it is at least one deep, and exactly one where comments do not nest. Each line
is cut at two offsets that follow each other and lie between characters of the line. -/
theorem classify_total (l : Language) (text : String) :
    classify l text = some (Passage.classify l text) ∧
      (∀ i b depth, stateBefore l text i = .inside b depth →
        1 ≤ depth ∧ (l.nested = false ∨ b.opening = b.closing → depth = 1)) ∧
      ∀ (i : Nat) cs c, (Text.lines text.toList)[i]? = some cs → (Passage.classify l text)[i]? = some c →
        ∃ start stop, start ≤ stop ∧ stop ≤ byteSize cs ∧ cut cs start stop = some c.line := by
  refine ⟨classifyFrom_eq l true (sound_outside l) _, ?_, ?_⟩
  · intro i b depth hstate
    have hsound := stateBefore_sound l text i
    rw [hstate] at hsound
    obtain ⟨-, hdepth, hone⟩ := hsound
    refine ⟨hdepth, fun hflat => hone (.inl ?_)⟩
    obtain hnested | hsame := hflat
    · simp [nests, hnested]
    · simp [nests, hsame]
  · intro i cs c hcs hc
    rw [classify_getElem?, hcs, Option.map_some, Option.some.injEq] at hc
    obtain ⟨start, stop, hle, hstop, hline⟩ :=
      classifyLine_cutFrom l (i == 0) (stateBefore l text i) cs
    rw [← hc, hline]
    refine ⟨offset cs start, offset cs stop, offset_le hle, ?_, cut_eq cs hle⟩
    rw [← offset_length]
    exact offset_le hstop

/-- A language whose comments close at once, where they stand. -/
theorem classify_total_empty_closing :
    let b : BlockComment := { opening := "(", closing := "", middle := some "" }
    let l := { Language.named "Plain" with
      lineComments := [""], blockComments := [b], nested := true, ignoreMark := some "",
      foldMark := some "" }
    stateBefore l "(\né" 1 = .inside b 1 ∧
      classify l "(\né" = some [⟨some .prose, ⟨"(", "", ""⟩, false⟩, codeLine ['é']] := by
  intro b l
  exact ⟨by decide, (classify_total l "(\né").1.trans (by decide)⟩

end Marginalia.Passage.Guarded
