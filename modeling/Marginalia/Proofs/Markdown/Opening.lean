import Marginalia.Proofs.Markdown.Growth
import Marginalia.Proofs.Markdown.Walk
import Marginalia.Proofs.Text.Start

/-! Texts that open with a heading. Lines that hold nothing but blanks leave the reader of blocks outside
containers and without a heading, and the heading that follows them is read with its text as it
stands. -/
namespace Marginalia.Markdown
open Text
set_option autoImplicit false

/-! ## Lines that start with a blank or a number sign -/

/-- The text is empty, or it starts with a blank or a number sign. -/
def Mild (cs : List Char) : Prop :=
  ∀ c ∈ cs.head?, isBlank c = true ∨ c = '#'

theorem Mild.of_blank {cs : List Char} (h : ∀ c ∈ cs, isBlank c = true) : Mild cs :=
  fun c hc => .inl (h c (List.mem_of_mem_head? hc))

theorem not_digit_of_blank {c : Char} (h : isBlank c = true) : c.isDigit = false := by
  rw [← Bool.not_eq_true]
  intro hd
  delta Char.isDigit at hd
  simp only [Bool.and_eq_true, decide_eq_true_eq, ge_iff_le, UInt32.le_iff_toNat_le] at hd
  have hrange : 48 ≤ c.toNat ∧ c.toNat ≤ 57 := hd
  simp only [isBlank, Bool.or_eq_true, Bool.and_eq_true, decide_eq_true_eq, beq_iff_eq] at h
  omega

theorem Mild.ne {c d : Char} {cs : List Char} (h : Mild (c :: cs)) (hd : isBlank d = false ∧ d ≠ '#') :
    c ≠ d := by
  rintro rfl
  obtain hb | rfl := h c rfl
  · rw [hd.1] at hb
    cases hb
  · exact hd.2 rfl

theorem Mild.noteMark? {cs : List Char} (h : Mild cs) : noteMark? cs = none := by
  unfold Markdown.noteMark?
  split
  · exact absurd rfl (h.ne (d := '[') (by decide))
  · rfl

theorem Mild.itemMark? {cs : List Char} (h : Mild cs) : itemMark? cs = none := by
  cases cs with
  | nil => rfl
  | cons c cs =>
    have hbullet : isBullet c = false := by
      simp [isBullet, h.ne (d := '-') (by decide), h.ne (d := '+') (by decide),
        h.ne (d := '*') (by decide)]
    have hdigit : c.isDigit = false := by
      obtain hb | rfl := h c rfl
      · exact not_digit_of_blank hb
      · rfl
    have hdigits : ((c :: cs).take 9).takeWhile Char.isDigit = [] := by
      rw [List.take_succ_cons, List.takeWhile_cons_of_neg (by simp [hdigit])]
    simp only [Markdown.itemMark?, hbullet, hdigits]
    rfl

theorem Mild.isThematicBreak {cs : List Char} (h : Mild cs) : isThematicBreak cs = false := by
  cases cs with
  | nil => rfl
  | cons c cs =>
    simp [Markdown.isThematicBreak, h.ne (d := '*') (by decide), h.ne (d := '-') (by decide),
      h.ne (d := '_') (by decide)]

theorem Mild.fence? {cs : List Char} (h : Mild cs) : fence? cs = none := by
  cases cs with
  | nil => rfl
  | cons c cs =>
    simp [Markdown.fence?, h.ne (d := '`') (by decide), h.ne (d := '~') (by decide)]

theorem Mild.underlineLevel? {cs : List Char} (h : Mild cs) : underlineLevel? cs = none := by
  cases cs with
  | nil => rfl
  | cons c cs =>
    simp [Markdown.underlineLevel?, h.ne (d := '=') (by decide), h.ne (d := '-') (by decide)]

theorem Mild.htmlEnd? {cs : List Char} (h : Mild cs) : htmlEnd? cs = none := by
  cases cs with
  | nil => rfl
  | cons c cs => simp [Markdown.htmlEnd?, strongHtmlEnd?, h.ne (d := '<') (by decide)]

theorem Mild.quoteMark? {c : Cursor} (h : Mild c.rest) : quoteMark? c = none := by
  unfold Markdown.quoteMark?
  split
  next hrest =>
    rw [hrest] at h
    exact absurd rfl (h.ne (d := '>') (by decide))
  next => rfl

theorem Mild.listMarker? {c : Cursor} (h : Mild c.rest) (indent : Nat) :
    listMarker? indent c = none := by
  rw [Markdown.listMarker?, h.itemMark?]

/-! ## Indentation -/

theorem rest_eat_suffix (n : Nat) (c : Cursor) : (c.eat n).2.rest <:+ c.rest := by
  induction n generalizing c with
  | zero => exact List.suffix_rfl
  | succ n ih =>
    unfold Cursor.eat
    split
    · exact ih _
    · split
      next hrest =>
        rw [hrest]
        exact (ih _).trans (List.suffix_cons ..)
      next hrest =>
        rw [hrest]
        exact (ih _).trans (List.suffix_cons ..)
      next => exact List.suffix_rfl

/-- There is no indentation before a number sign. -/
theorem eat_of_sign {c : Cursor} {cs : List Char} (hrest : c.rest = '#' :: cs) (hp : c.pending = 0)
    (n : Nat) : c.eat n = (0, c) := by
  cases n with
  | zero => rfl
  | succ n => simp [Cursor.eat, hp, hrest]

/-! ## Lines outside containers -/

/-- Is it a paragraph or indented code? -/
def isQuiet {α : Type} : Block α → Bool
  | .paragraph _ => true
  | .indented _ => true
  | _ => false

/-- The reader stands outside containers, and none of the blocks so far holds a heading. -/
structure Reader.Bare (r : Reader) : Prop where
  frames : r.frames = []
  quiet : ∀ b ∈ r.blocks, isQuiet b = true

/-- The line holds nothing but blanks. -/
def SourceLine.IsBlank (l : SourceLine) : Prop :=
  ∀ c ∈ l.text, isBlank c = true

/-- The line starts with this many number signs and a space. -/
def SourceLine.Heads (l : SourceLine) (level : Nat) (after : List Char) : Prop :=
  1 ≤ level ∧ level ≤ 6 ∧ l.text = List.replicate level '#' ++ ' ' :: after

theorem SourceLine.IsBlank.mild {l : SourceLine} (h : l.IsBlank) (n : Nat) :
    Mild ((Cursor.ofLine l).eat n).2.rest :=
  .of_blank fun c hc => h c ((rest_eat_suffix n _).subset hc)

theorem SourceLine.Heads.text_eq {l : SourceLine} {level : Nat} {after : List Char}
    (h : l.Heads level after) : ∃ cs, l.text = '#' :: cs := by
  obtain ⟨hone, -, htext⟩ := h
  obtain ⟨n, rfl⟩ : ∃ n, level = n + 1 := ⟨level - 1, by omega⟩
  exact ⟨_, htext⟩

theorem SourceLine.Heads.drop_eq {l : SourceLine} {level : Nat} {after : List Char}
    (h : l.Heads level after) : l.text.drop level = ' ' :: after := by
  rw [h.2.2]
  exact List.drop_left' (List.length_replicate ..)

theorem SourceLine.Heads.eat_eq {l : SourceLine} {level : Nat} {after : List Char}
    (h : l.Heads level after) (n : Nat) : (Cursor.ofLine l).eat n = (0, .ofLine l) := by
  obtain ⟨cs, hcs⟩ := h.text_eq
  exact eat_of_sign hcs rfl n

theorem SourceLine.Heads.mild {l : SourceLine} {level : Nat} {after : List Char}
    (h : l.Heads level after) : Mild l.text := by
  obtain ⟨cs, hcs⟩ := h.text_eq
  rw [hcs]
  intro c hc
  exact .inr (by simpa using hc.symm)

theorem SourceLine.Heads.headingLevel? {l : SourceLine} {level : Nat} {after : List Char}
    (h : l.Heads level after) : headingLevel? l.text = some level := by
  have hdrop := h.drop_eq
  obtain ⟨hone, hsix, htext⟩ := h
  have hrun : runLength '#' l.text = level := by
    rw [runLength, htext, List.takeWhile_append_of_pos (by simp)]
    simp
  simp [Markdown.headingLevel?, hrun, hdrop, hone, hsix]
  decide

namespace Reader

theorem enter_mild (r : Reader) {c : Cursor} (h : Mild (c.eat 4).2.rest) (fuel : Nat) :
    enter (fuel + 1) r c = (r, c, false) := by
  rw [enter]
  dsimp only
  split
  · rfl
  · rw [h.noteMark?]
    dsimp only
    rw [h.listMarker?]
    dsimp only
    rw [h.quoteMark?]

theorem step_mild {r : Reader} (hr : r.frames = []) {l : SourceLine}
    (h : Mild ((Cursor.ofLine l).eat 4).2.rest) (ls : List SourceLine) :
    r.step l ls = if isBlankLine l.text then (r.blankLine, 0)
      else ({ r with emptyItem := false } : Reader).endList.leafBlock (.ofLine l) l ls := by
  have hresume : resume r.containers (.ofLine l) = (0, .ofLine l) := by
    rw [containers, hr]
    rfl
  have hclose : closeMany (r.frames.length - 0) r = r := by
    rw [hr]
    rfl
  simp only [step, hresume, hclose, enter_mild r h]
  rfl

theorem Bare.blankLine {r : Reader} (h : r.Bare) : r.blankLine.Bare := by
  unfold Reader.blankLine
  rw [h.frames]
  exact ⟨rfl, h.quiet⟩

theorem Bare.endList {r : Reader} (h : r.Bare) : r.endList.Bare := by
  unfold Reader.endList
  rw [h.frames]
  dsimp only
  split
  · exact ⟨by rw [h.frames], h.quiet⟩
  · exact h

theorem Bare.add {r : Reader} (h : r.Bare) {b : Block Leaf} (hb : isQuiet b = true) :
    (r.add b).Bare := by
  unfold Reader.add
  rw [h.frames]
  exact ⟨rfl, List.forall_mem_cons.mpr ⟨hb, h.quiet⟩⟩

/-! ## Blank lines -/

/-- A heading ends indented code. -/
theorem length_indentedLines_le {pre post : List SourceLine} {l : SourceLine} {level : Nat}
    {after : List Char} (hl : l.Heads level after) :
    (indentedLines [] (pre ++ l :: post)).length ≤ pre.length := by
  induction pre with
  | nil =>
    obtain ⟨cs, hcs⟩ := hl.text_eq
    have hnone : indentedLines [] (l :: post) = [] := by
      have hend : (Cursor.ofLine l).atEnd = false := by
        simp [Cursor.atEnd, Cursor.ofLine, hcs]
      simp [indentedLines, resumeAll?, resume, hl.eat_eq, hend]
    rw [List.nil_append, hnone]
    exact le_rfl
  | cons first pre ih =>
    rw [List.cons_append, indentedLines]
    split
    · simp
    · dsimp only
      split
      · simpa using ih
      · simp

theorem follow_heads {l : SourceLine} {level : Nat} {after : List Char} (hl : l.Heads level after)
    (next : Option SourceLine) : follow [] l next = .stop := by
  have hinterrupts : interrupts true false next l.text = true := by
    simp [interrupts, hl.headingLevel?]
  have hnone : underlineLevel? (Cursor.ofLine l).rest = none := hl.mild.underlineLevel?
  have hstop : interrupts true false next (Cursor.ofLine l).rest = true := hinterrupts
  simp [follow, resume, hl.eat_eq, hnone, hstop]

theorem follow_blank {l : SourceLine} (hl : l.IsBlank) (next : Option SourceLine) (level : Nat) :
    follow [] l next ≠ .underline level := by
  have hnone := (hl.mild 4).underlineLevel?
  intro h
  unfold follow at h
  dsimp only [resume] at h
  rw [hnone] at h
  dsimp only at h
  split at h
  · split at h
    · cases h
    · split at h <;> cases h
  · split at h <;> cases h

/-- A paragraph of blanks is no heading, and a heading ends it. -/
theorem followers_blank {pre : List SourceLine} {l : SourceLine} {level : Nat}
    {after : List Char} (hpre : ∀ b ∈ pre, b.IsBlank) (hl : l.Heads level after)
    (post : List SourceLine) (ending : List Char) (offset : Nat) :
    (followers [] ending offset (pre ++ l :: post)).2.1 = none ∧
      (followers [] ending offset (pre ++ l :: post)).2.2 ≤ pre.length := by
  induction pre generalizing ending offset with
  | nil =>
    rw [List.nil_append, followers, follow_heads hl]
    exact ⟨rfl, le_rfl⟩
  | cons first pre ih =>
    rw [List.forall_mem_cons] at hpre
    rw [List.cons_append, followers]
    split
    · exact ⟨rfl, Nat.zero_le _⟩
    next hunder => exact absurd hunder (follow_blank hpre.1 _ _)
    next =>
      have h := ih hpre.2 first.ending (first.start + first.text.length)
      exact ⟨h.1, Nat.succ_le_succ h.2⟩

theorem mem_ofChars {g : Glyph} {offset : Nat} {cs : List Char} (h : g ∈ Glyph.ofChars offset cs) :
    g.char ∈ cs := by
  induction cs generalizing offset with
  | nil => cases h
  | cons c cs ih =>
    obtain rfl | h := List.mem_cons.mp h
    · exact List.mem_cons_self ..
    · exact List.mem_cons_of_mem c (ih h)

theorem length_splitRow {gs : List Glyph} (h : ∀ g ∈ gs, g.char ≠ '|') (escaped : Bool) :
    (splitRow escaped gs).length = 1 := by
  induction gs generalizing escaped with
  | nil => rfl
  | cons g gs ih =>
    rw [List.forall_mem_cons] at h
    have hrest := ih h.2 (g.char = '\\')
    rw [splitRow, if_neg (by simp [h.1])]
    split
    · rfl
    next hp =>
      rw [hp] at hrest
      simpa using hrest

/-- A table has a pipe in its head row. -/
theorem tableColumns?_blank {cs : List Char} (h : ∀ c ∈ cs, isBlank c = true)
    (next : Option SourceLine) : tableColumns? [] cs next = none := by
  have hpipe : ∀ g ∈ Glyph.ofChars 0 cs, g.char ≠ '|' := by
    intro g hg he
    have hb := h g.char (mem_ofChars hg)
    rw [he] at hb
    exact absurd hb (by decide)
  simp [tableColumns?, length_splitRow hpipe]

theorem headingLevel?_blank {cs : List Char} (h : ∀ c ∈ cs, isBlank c = true) :
    headingLevel? cs = none := by
  cases cs with
  | nil => rfl
  | cons c cs =>
    have hc : c ≠ '#' := by
      rintro rfl
      exact absurd (h _ (List.mem_cons_self ..)) (by decide)
    simp [headingLevel?, runLength, hc]

theorem Bare.leafBlock_blank {r : Reader} (hr : r.Bare) {c : Cursor} {b l : SourceLine}
    {pre post : List SourceLine} {level : Nat} {after : List Char}
    (hc : ∀ d ∈ (c.eat 4).2.rest, isBlank d = true) (hpre : ∀ b ∈ pre, b.IsBlank)
    (hl : l.Heads level after) :
    (r.leafBlock c b (pre ++ l :: post)).1.Bare ∧
      (r.leafBlock c b (pre ++ l :: post)).2 ≤ pre.length := by
  have hmild := Mild.of_blank hc
  have hks : r.containers = [] := by
    rw [containers, hr.frames]
    rfl
  have hbracket : ¬ (c.eat 4).2.rest.head? = some '[' := by
    intro he
    exact absurd (hc _ (List.mem_of_mem_head? he)) (by decide)
  unfold leafBlock
  dsimp only
  split
  · have hadded := hr.add (b := .indented (String.ofList ((c.eat 4).2.remainder ++ b.codeEnding ++
      (((indentedLines r.containers (pre ++ l :: post)).reverse.dropWhile (·.2)).reverse).flatMap
        (·.1)))) rfl
    refine ⟨⟨hadded.frames, hadded.quiet⟩, ?_⟩
    unfold indentedCode
    rw [hks]
    exact length_indentedLines_le hl
  · rw [hmild.htmlEnd?]
    dsimp only
    rw [if_neg (by simp [hmild.isThematicBreak]), headingLevel?_blank hc]
    dsimp only
    rw [hmild.fence?]
    dsimp only
    have hdefinition : r.definition (c.eat 4).2 b (pre ++ l :: post) = none := by
      rw [definition, if_neg hbracket]
    rw [hdefinition]
    dsimp only
    obtain ⟨hlevel, hle⟩ := followers_blank hpre hl post b.ending (b.start + b.text.length)
    unfold paragraph
    dsimp only
    rw [hks, tableColumns?_blank hc]
    dsimp only
    rw [hlevel]
    have hbare : ({ r with box := none } : Reader).Bare := ⟨hr.frames, hr.quiet⟩
    exact ⟨hbare.add rfl, hle⟩

theorem Bare.step_blank {r : Reader} (hr : r.Bare) {b l : SourceLine} {pre : List SourceLine}
    {level : Nat} {after : List Char} (hb : b.IsBlank) (hpre : ∀ b ∈ pre, b.IsBlank)
    (hl : l.Heads level after) (post : List SourceLine) :
    (r.step b (pre ++ l :: post)).1.Bare ∧ (r.step b (pre ++ l :: post)).2 ≤ pre.length := by
  rw [step_mild hr.frames (hb.mild 4)]
  split
  · exact ⟨hr.blankLine, Nat.zero_le _⟩
  · have hbare : ({ r with emptyItem := false } : Reader).Bare := ⟨hr.frames, hr.quiet⟩
    exact hbare.endList.leafBlock_blank
      (fun d hd => hb d ((rest_eat_suffix 4 _).subset hd)) hpre hl

/-- Blank lines before a heading leave the reader outside containers and without a heading. -/
theorem Bare.run_blank {r : Reader} (hr : r.Bare) {pre : List SourceLine} {l : SourceLine}
    {level : Nat} {after : List Char} (hpre : ∀ b ∈ pre, b.IsBlank) (hl : l.Heads level after)
    (post : List SourceLine) :
    ∃ r' : Reader, r'.Bare ∧ r.run (pre ++ l :: post) = r'.run (l :: post) := by
  -- a step takes several lines where they make a block, so the induction is on their number
  induction hn : pre.length using Nat.strong_induction_on generalizing r pre with
  | _ n ih =>
    cases pre with
    | nil => exact ⟨r, hr, rfl⟩
    | cons b pre =>
      rw [List.forall_mem_cons] at hpre
      obtain ⟨hbare, hle⟩ := hr.step_blank hpre.1 hpre.2 hl post
      have hshort : (pre.drop (r.step b (pre ++ l :: post)).2).length < n := by
        rw [← hn, List.length_drop, List.length_cons]
        omega
      obtain ⟨r', hr', hrun⟩ := ih _ hshort hbare
        (fun b hb => hpre.2 b (List.mem_of_mem_drop hb)) rfl
      refine ⟨r', hr', ?_⟩
      rw [List.cons_append, run]
      dsimp only
      rw [List.drop_append_of_le_length hle, hrun]

/-- A heading is added to the blocks, with the offset of its line. -/
theorem Bare.step_heads {r : Reader} (hr : r.Bare) {l : SourceLine} {level : Nat}
    {after : List Char} (hl : l.Heads level after) (hafter : ∀ c ∈ after.head?, isSpace c = false)
    (ls : List SourceLine) :
    (r.step l ls).1.blocks = .heading level l.start
        { glyphs := Glyph.ofChars (l.start + level + 1) (headingText after), loose := true } ::
      r.blocks ∧ (r.step l ls).2 = 0 := by
  have hmild : Mild ((Cursor.ofLine l).eat 4).2.rest := by
    rw [hl.eat_eq]
    exact hl.mild
  have hnotBlank : isBlankLine l.text = false := by
    obtain ⟨cs, hcs⟩ := hl.text_eq
    rw [hcs]
    rfl
  have hbare : ({ r with emptyItem := false } : Reader).Bare := ⟨hr.frames, hr.quiet⟩
  have hrest : (Cursor.ofLine l).rest = l.text := rfl
  have hbody : after.dropWhile isSpace = after := by
    cases after with
    | nil => rfl
    | cons c after => rw [List.dropWhile_cons_of_neg (by simp [hafter c rfl])]
  have hleaf : ({ r with emptyItem := false } : Reader).endList.leafBlock (.ofLine l) l ls =
      (({ r with emptyItem := false } : Reader).endList.heading (.ofLine l) level l, 0) := by
    simp [leafBlock, hl.eat_eq, hrest, hl.mild.htmlEnd?, hl.mild.isThematicBreak, hl.headingLevel?]
  have hblocks : ({ r with emptyItem := false } : Reader).endList.blocks = r.blocks := by
    unfold Reader.endList
    dsimp only
    rw [hr.frames]
    dsimp only
    split <;> rfl
  rw [step_mild hr.frames hmild, hnotBlank, if_neg (by simp), hleaf]
  refine ⟨?_, rfl⟩
  unfold heading
  dsimp only
  rw [Reader.add, hbare.endList.frames]
  dsimp only
  rw [hblocks, hrest, hl.drop_eq, List.dropWhile_cons_of_pos (by decide), hbody]
  simp [Cursor.ofLine]

end Reader

/-! ## The lines of the source -/

theorem sourceLinesFrom_cons {c : Char} (hn : c ≠ '\n') (hr : c ≠ '\r') (offset : Nat)
    (cs : List Char) {l : SourceLine} {ls : List SourceLine}
    (h : sourceLinesFrom (offset + 1) cs = l :: ls) :
    sourceLinesFrom offset (c :: cs) = { l with start := offset, text := c :: l.text } :: ls := by
  rw [sourceLinesFrom]
  · rw [h]
  · exact fun e => hn e
  · exact fun _ e => absurd e hr
  · exact fun e => hr e

/-- A line goes on to the next line feed. -/
theorem sourceLinesFrom_line {line back : List Char} (hne : line ≠ [])
    (hn : '\n' ∉ line) (hr : '\r' ∉ line) (hb : back = [] ∨ ∃ more, back = '\n' :: more)
    (offset : Nat) :
    ∃ ending post, sourceLinesFrom offset (line ++ back) = ⟨offset, line, ending⟩ :: post := by
  induction line generalizing offset with
  | nil => exact absurd rfl hne
  | cons c line ih =>
    rw [List.mem_cons, not_or] at hn hr
    cases line with
    | nil =>
      obtain rfl | ⟨more, rfl⟩ := hb
      · refine ⟨[], [], ?_⟩
        rw [List.singleton_append, sourceLinesFrom]
        · rfl
        · exact fun e => hn.1 e.symm
        · exact fun _ e => absurd e.symm hr.1
        · exact fun e => hr.1 e.symm
      · have hfeed : sourceLinesFrom (offset + 1) ('\n' :: more) =
            ⟨offset + 1, [], ['\n']⟩ :: sourceLinesFrom (offset + 1 + 1) more := by
          rw [sourceLinesFrom]
        exact ⟨_, _, sourceLinesFrom_cons (Ne.symm hn.1) (Ne.symm hr.1) offset _ hfeed⟩
    | cons d line =>
      obtain ⟨ending, post, h⟩ := ih (by simp) hn.2 hr.2 (offset + 1)
      exact ⟨ending, post, sourceLinesFrom_cons (Ne.symm hn.1) (Ne.symm hr.1) offset _ h⟩

/-- The text is made of whole lines. -/
def Whole (cs : List Char) : Prop :=
  cs = [] ∨ cs.getLast? = some '\n'

theorem Whole.tail {c : Char} {cs : List Char} (h : Whole (c :: cs)) : Whole cs := by
  cases cs with
  | nil => exact .inl rfl
  | cons d cs => exact .inr (by simpa [Whole] using h)

theorem Whole.tail_ne_nil {c : Char} {cs : List Char} (h : Whole (c :: cs)) (hc : c ≠ '\n') :
    cs ≠ [] := by
  rintro rfl
  simp [Whole, hc] at h

/-- The lines from an offset on are blank ones, at least one if there is text in front, and then the
given line. -/
def Precede (front line : List Char) (offset : Nat) (ls : List SourceLine) : Prop :=
  ∃ pre ending post, ls = pre ++ ⟨offset + front.length, line, ending⟩ :: post ∧
    (∀ b ∈ pre, b.IsBlank) ∧ (front ≠ [] → pre ≠ [])

theorem Precede.cons (first : List Char) {front line : List Char} {offset : Nat} {ls : List SourceLine}
    (h : Precede front line (offset + first.length) ls) {b : SourceLine} (hb : b.IsBlank) :
    Precede (first ++ front) line offset (b :: ls) := by
  obtain ⟨pre, ending, post, rfl, hpre, -⟩ := h
  refine ⟨b :: pre, ending, post, ?_, List.forall_mem_cons.mpr ⟨hb, hpre⟩, by simp⟩
  rw [List.length_append, ← Nat.add_assoc, List.cons_append]

theorem isBlank_nil (offset : Nat) (ending : List Char) : SourceLine.IsBlank ⟨offset, [], ending⟩ :=
  fun _ hc => absurd hc (by simp)

/-- Blanks up to a line feed make blank lines in front of the line that follows. -/
theorem sourceLinesFrom_blank {front line back : List Char} (hfront : ∀ c ∈ front, isBlank c = true)
    (hwhole : Whole front) (hne : line ≠ []) (hn : '\n' ∉ line) (hr : '\r' ∉ line)
    (hb : back = [] ∨ ∃ more, back = '\n' :: more) (offset : Nat) :
    Precede front line offset (sourceLinesFrom offset (front ++ (line ++ back))) := by
  -- the cases of line ends, and last a character that goes to the front of the next blank line
  have hchar : ∀ (offset : Nat) (c : Char) (cs : List Char), c ≠ '\n' → c ≠ '\r' →
      (∀ d ∈ c :: cs, isBlank d = true) → Whole (c :: cs) →
      Precede cs line (offset + 1) (sourceLinesFrom (offset + 1) (cs ++ (line ++ back))) →
      Precede (c :: cs) line offset (sourceLinesFrom offset (c :: cs ++ (line ++ back))) := by
    intro offset c cs hcn hcr hblank hw h
    obtain ⟨pre, ending, post, hls, hpre, hmore⟩ := h
    obtain ⟨b, pre, rfl⟩ := List.exists_cons_of_ne_nil (hmore (hw.tail_ne_nil hcn))
    rw [List.forall_mem_cons] at hblank hpre
    refine ⟨{ b with start := offset, text := c :: b.text } :: pre, ending, post, ?_, ?_, by simp⟩
    · rw [List.cons_append, sourceLinesFrom_cons hcn hcr offset _ hls, List.length_cons,
        Nat.add_right_comm offset 1, List.cons_append]
      rfl
    · exact List.forall_mem_cons.mpr ⟨List.forall_mem_cons.mpr ⟨hblank.1, hpre.1⟩, hpre.2⟩
  induction offset, front using sourceLinesFrom.induct with
  | case1 offset =>
    obtain ⟨ending, post, h⟩ := sourceLinesFrom_line hne hn hr hb offset
    exact ⟨[], ending, post, h, by simp, by simp⟩
  | case2 offset cs ih =>
    rw [List.cons_append, sourceLinesFrom]
    exact (ih (List.forall_mem_cons.mp hfront).2 hwhole.tail).cons ['\n'] (isBlank_nil _ _)
  | case3 offset cs ih =>
    rw [List.cons_append, List.cons_append, sourceLinesFrom]
    rw [List.forall_mem_cons, List.forall_mem_cons] at hfront
    exact (ih hfront.2.2 hwhole.tail.tail).cons ['\r', '\n'] (isBlank_nil _ _)
  | case4 offset cs hfeed ih =>
    obtain ⟨d, cs, rfl⟩ := List.exists_cons_of_ne_nil (hwhole.tail_ne_nil (by decide))
    rw [List.cons_append, sourceLinesFrom]
    · exact (ih (List.forall_mem_cons.mp hfront).2 hwhole.tail).cons ['\r'] (isBlank_nil _ _)
    · intro more he
      rw [List.cons_append, List.cons.injEq] at he
      exact hfeed cs (by rw [he.1])
  | case5 offset c cs hcn hcrn hcr hls ih =>
    exact hchar offset c cs hcn hcr hfront hwhole (ih (List.forall_mem_cons.mp hfront).2 hwhole.tail)
  | case6 offset c cs hcn hcrn hcr l ls hls ih =>
    exact hchar offset c cs hcn hcr hfront hwhole (ih (List.forall_mem_cons.mp hfront).2 hwhole.tail)

/-! ## Text without markup -/

/-- Does the character stand for itself in inline text? -/
def isLiteral (c : Char) : Bool :=
  !(['\n', '\\', '`', '<', '!', '[', ']', '&', '*', '_', '~'].contains c)

namespace SpanReader

theorem step_literal (scope : Scope) (r : SpanReader) {g : Glyph} (h : isLiteral g.char = true)
    (rest : List Glyph) : step scope r g rest = (r.write [g.char], 0) := by
  have hne : ∀ c, isLiteral c = false → g.char ≠ c := by
    rintro c hc rfl
    rw [hc] at h
    cases h
  unfold step
  split
  next he => exact absurd he (hne _ (by decide))
  next he => exact absurd he (hne _ (by decide))
  next he => exact absurd he (hne _ (by decide))
  next he => exact absurd he (hne _ (by decide))
  next he => exact absurd he (hne _ (by decide))
  next he => exact absurd he (hne _ (by decide))
  next he => exact absurd he (hne _ (by decide))
  next he => exact absurd he (hne _ (by decide))
  next =>
    simp [hne '*' (by decide), hne '_' (by decide), hne '~' (by decide)]

/-- Literal characters are put behind the plain text. -/
theorem run_literal (scope : Scope) {cs : List Char} (h : ∀ c ∈ cs, isLiteral c = true)
    (offset : Nat) (r : SpanReader) :
    ∃ last, run scope r (Glyph.ofChars offset cs) =
      { r with plain := cs.reverse ++ r.plain, last } := by
  induction cs generalizing offset r with
  | nil =>
    rw [Glyph.ofChars, run]
    exact ⟨r.last, rfl⟩
  | cons c cs ih =>
    rw [List.forall_mem_cons] at h
    rw [Glyph.ofChars, run, step_literal scope r h.1]
    obtain ⟨last, hrun⟩ := ih h.2 (offset + 1) { r.write [c] with last := c }
    refine ⟨last, hrun.trans ?_⟩
    simp [write]

end SpanReader

/-- Literal characters, not all of them blank, are read as they stand where they may end in blanks. -/
theorem readSpan_literal (scope : Scope) {cs : List Char} (h : ∀ c ∈ cs, isLiteral c = true)
    (hfilled : cs.any (!isSpace ·) = true) (offset : Nat) :
    readSpan scope true (Glyph.ofChars offset cs) = [.text (String.ofList cs)] := by
  obtain ⟨last, hrun⟩ := SpanReader.run_literal scope h offset {}
  have hne : cs.reverse.isEmpty = false := by
    cases cs with
    | nil => cases hfilled
    | cons c cs => simp
  rw [readSpan, hrun, SpanReader.finish]
  dsimp only
  rw [List.append_nil, List.any_reverse, hfilled]
  simp [SpanReader.dropAll, SpanReader.flush, hne, settleEmphasis, EmphasisStack.step,
    EmphasisStack.push, EmphasisStack.finish]

/-! ## The first heading -/

/-- The text opens with the blank lines `front` and a line of `level` number signs, a space and
`after`. -/
structure Opens (cs front : List Char) (level : Nat) (after : List Char) : Prop where
  blank : ∀ c ∈ front, isBlank c = true
  whole : Whole front
  range : 1 ≤ level ∧ level ≤ 6
  line : '\n' ∉ after ∧ '\r' ∉ after ∧ ∀ c ∈ after.head?, isSpace c = false
  text : ∃ back, (back = [] ∨ ∃ more, back = '\n' :: more) ∧
    cs = front ++ ((List.replicate level '#' ++ ' ' :: after) ++ back)

/-- The heading that a text opens with, before its inline text is read. -/
def openingHeading (front : List Char) (level : Nat) (after : List Char) : Block Leaf :=
  .heading level front.length
    { glyphs := Glyph.ofChars (front.length + level + 1) (Reader.headingText after), loose := true }

section Opens

variable {cs front after : List Char} {level : Nat} (h : Opens cs front level after)
include h

theorem Opens.sourceLines_eq : ∃ pre l post, sourceLines cs = pre ++ l :: post ∧
    (∀ b ∈ pre, b.IsBlank) ∧ l.Heads level after ∧ l.start = front.length := by
  obtain ⟨back, hback, rfl⟩ := h.text
  obtain ⟨hn, hr, -⟩ := h.line
  have hfeed : '\n' ∉ List.replicate level '#' ++ ' ' :: after := by simp [hn]
  have hreturn : '\r' ∉ List.replicate level '#' ++ ' ' :: after := by simp [hr]
  obtain ⟨pre, ending, post, hls, hpre, -⟩ :=
    sourceLinesFrom_blank h.blank h.whole (by simp) hfeed hreturn hback 0
  exact ⟨pre, _, post, hls, hpre, ⟨h.range.1, h.range.2, rfl⟩, Nat.zero_add _⟩

/-- No block before the first heading holds one, and the heading stands outside containers. -/
theorem Opens.readBlocks_eq : ∃ quiet later, (readBlocks cs).blocks =
    quiet ++ openingHeading front level after :: later ∧ ∀ b ∈ quiet, isQuiet b = true := by
  obtain ⟨pre, l, post, hls, hpre, hl, hstart⟩ := h.sourceLines_eq
  have hempty : ({} : Reader).Bare := ⟨rfl, by simp⟩
  obtain ⟨r, hbare, hrun⟩ := hempty.run_blank hpre hl post
  obtain ⟨hblocks, htaken⟩ := hbare.step_heads hl h.line.2.2 post
  have hfirst : ({} : Reader).run (sourceLines cs) = (r.step l post).1.run post := by
    rw [hls, hrun, Reader.run]
    dsimp only
    rw [htaken, List.drop_zero]
  obtain ⟨later, hlater⟩ := (Reader.blocks_run (r.step l post).1 post).trans
    (Reader.blocks_closeMany ((r.step l post).1.run post).frames.length _)
  rw [hblocks, hstart] at hlater
  refine ⟨r.blocks.reverse, later.reverse, ?_, fun b hb => hbare.quiet b (List.mem_reverse.mp hb)⟩
  unfold readBlocks
  dsimp only
  rw [hfirst, ← hlater]
  simp [openingHeading]

end Opens

theorem mapBlocks_append {α β : Type} (f : α → β) (as bs : List (Block α)) :
    mapBlocks f (as ++ bs) = mapBlocks f as ++ mapBlocks f bs := by
  induction as with
  | nil => rfl
  | cons a as ih => rw [List.cons_append, mapBlocks, ih, mapBlocks, List.cons_append]

theorem blockEvents_append (tight : Bool) (as bs : List (Block (List Inline))) :
    blockEvents tight (as ++ bs) = blockEvents tight as ++ blockEvents tight bs := by
  induction as with
  | nil => rfl
  | cons a as ih => rw [List.cons_append, blockEvents, ih, blockEvents, List.append_assoc]

theorem not_marks_quiet {α : Type} (f : α → List Inline) {bs : List (Block α)}
    (h : ∀ b ∈ bs, isQuiet b = true) :
    ∀ e ∈ blockEvents false (mapBlocks f bs), marksHeading e = false := by
  induction bs with
  | nil => simp [mapBlocks, blockEvents]
  | cons b bs ih =>
    rw [List.forall_mem_cons] at h
    rw [mapBlocks, blockEvents, List.forall_mem_append]
    refine ⟨?_, ih h.2⟩
    cases b with
    | paragraph content => exact not_marks_within rfl rfl (not_marks_inlineEvents _)
    | indented text => exact not_marks_within rfl rfl (by simp [marksHeading])
    | _ => exact absurd h.1 (by simp [isQuiet])

/-- The events of a text that opens with a heading whose text has no markup. -/
theorem Opens.events_eq {text : String} {front after title : List Char} {level : Nat}
    (h : Opens text.toList front level after) (htitle : Reader.headingText after = title)
    (hliteral : ∀ c ∈ title, isLiteral c = true) (hfilled : title.any (!isSpace ·) = true) :
    ∃ before later, events text =
        before ++ (within (.heading level front.length) [.text (String.ofList title)] ++ later) ∧
      (∀ e ∈ before, marksHeading e = false) ∧ Walk later := by
  obtain ⟨quiet, later, hblocks, hquiet⟩ := h.readBlocks_eq
  have hspan := fun scope => readSpan_literal scope hliteral hfilled (front.length + level + 1)
  rw [events, parse, hblocks, mapBlocks_append, blockEvents_append, mapBlocks, blockEvents, openingHeading,
    Block.map, Block.events, htitle, hspan]
  exact ⟨_, _, rfl, not_marks_quiet _ hquiet, walk_blockEvents false _⟩

end Marginalia.Markdown
