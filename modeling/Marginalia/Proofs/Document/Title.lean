import Marginalia.Document.Basic
import Marginalia.Proofs.Markdown.Opening
import Marginalia.Proofs.Outline.Heading
import Marginalia.Proofs.Passage.Scan
import Marginalia.Proofs.Text.Lines
import Marginalia.Proofs.Text.Trim

/-! The title of a file of prose and its first heading, both read off the first line that says
anything. They differ where the heading ends in number signs of its last word: only the title loses
them. -/
namespace Marginalia.Document
open Text Markdown
set_option autoImplicit false

/-! ## The words of a heading -/

/-- Words of letters, digits and number signs. The first word starts with a letter or a digit, and the
last one is not made of number signs only. -/
structure AreWords (words : List (List Char)) : Prop where
  signs : ∀ w ∈ words, ∀ c ∈ w, isAlphanumeric c = true ∨ c = '#'
  first : ∃ c w later, words = (c :: w) :: later ∧ isAlphanumeric c = true
  last : ∃ early w, words = early ++ [w] ∧ ∃ c ∈ w, c ≠ '#'

/-- The words with a space between them. -/
def spaced (words : List (List Char)) : List Char :=
  [' '].intercalate words

theorem exists_ending {w : List Char} (h : ∃ c ∈ w, c ≠ '#') :
    ∃ body c n, w = body ++ c :: List.replicate n '#' ∧ c ≠ '#' := by
  induction w with
  | nil => simp at h
  | cons d w ih =>
    by_cases hw : ∃ c ∈ w, c ≠ '#'
    · obtain ⟨body, c, n, rfl, hc⟩ := ih hw
      exact ⟨d :: body, c, n, rfl, hc⟩
    · have hall : ∀ c ∈ w, c = '#' := fun c hc => not_not.mp fun hne => hw ⟨c, hc, hne⟩
      obtain ⟨c, hc, hne⟩ := h
      obtain rfl : c = d := (List.mem_cons.mp hc).resolve_right fun hm => hne (hall c hm)
      exact ⟨[], c, w.length, by rw [List.nil_append, ← List.eq_replicate_of_mem hall], hne⟩

/-- A text that starts with a letter or a digit and ends in one and number signs. -/
structure Framed (cs : List Char) : Prop where
  first : ∃ c rest, cs = c :: rest ∧ isAlphanumeric c = true
  last : ∃ body c n, cs = body ++ c :: List.replicate n '#' ∧ isAlphanumeric c = true

section Words

variable {words : List (List Char)} (h : AreWords words)
include h

theorem AreWords.framed : Framed (spaced words) where
  first := by
    obtain ⟨c, w, later, rfl, hc⟩ := h.first
    exact ⟨c, _, by rw [spaced, intercalate_cons, List.cons_append], hc⟩
  last := by
    obtain ⟨early, w, hwords, hw⟩ := h.last
    obtain ⟨body, c, n, rfl, hc⟩ := exists_ending hw
    have hsign := h.signs _ (hwords ▸ List.mem_concat_self ..) c (by simp)
    refine ⟨early.flatMap (· ++ [' ']) ++ body, c, n, ?_, hsign.resolve_right hc⟩
    rw [spaced, hwords, intercalate_append_cons, List.flatMap_nil, List.append_nil,
      List.append_assoc]

theorem AreWords.cases_of_mem {c : Char} (hc : c ∈ spaced words) :
    isAlphanumeric c = true ∨ c = '#' ∨ c = ' ' := by
  obtain hspace | ⟨w, hw, hm⟩ := of_mem_intercalate hc
  · exact .inr (.inr (List.mem_singleton.mp hspace))
  · exact (h.signs w hw c hm).imp_right .inl

end Words

theorem not_space_of_alphanumeric {c : Char} (hc : isAlphanumeric c = true) : isSpace c = false := by
  have hblank := not_blank_of_alphanumeric hc
  rw [← Bool.not_eq_true] at hblank ⊢
  intro hs
  simp only [isSpace, Bool.or_eq_true, decide_eq_true_eq] at hs
  apply hblank
  obtain ((rfl | rfl) | hn) | hn := hs
  · rfl
  · rfl
  · simp [isBlank, hn]
  · simp [isBlank, hn]

theorem AreWords.isLiteral {words : List (List Char)} (h : AreWords words) :
    ∀ c ∈ spaced words, isLiteral c = true := by
  intro c hc
  rw [Markdown.isLiteral, Bool.not_eq_true', ← Bool.not_eq_true, List.contains_iff_mem]
  intro hm
  obtain hword | rfl | rfl := h.cases_of_mem hc
  · have hnone : ['\n', '\\', '`', '<', '!', '[', ']', '&', '*', '_', '~'].all
        (fun d => !isAlphanumeric d) = true := by decide
    have hd := List.all_eq_true.mp hnone c hm
    rw [hword] at hd
    cases hd
  · revert hm
    decide
  · revert hm
    decide

/-! ## Number signs at the end of a line -/

/-- What may follow the text of a heading: nothing, or a space and number signs. -/
def closingRun : Nat → List Char
  | 0 => []
  | n + 1 => ' ' :: List.replicate (n + 1) '#'

/-- Only what is before the number signs at the end decides where else the text ends. -/
theorem dropWhileEnd_signs {p : Char → Bool} {c : Char} (hc : p c = false) (hp : p '#' = false)
    (body : List Char) (n : Nat) :
    dropWhileEnd p (body ++ c :: List.replicate n '#') = body ++ c :: List.replicate n '#' := by
  cases n with
  | zero => exact dropWhileEnd_concat hc
  | succ n =>
    rw [List.replicate_succ', ← List.cons_append, ← List.append_assoc, dropWhileEnd_concat hp]

theorem dropWhileEnd_sign {c : Char} (hc : c ≠ '#') (body : List Char) (n : Nat) :
    dropWhileEnd (· = '#') (body ++ c :: List.replicate n '#') = body ++ [c] := by
  rw [List.append_cons, dropWhileEnd_append (by simp), dropWhileEnd_concat (by simpa using hc)]

section Framed

variable {cs : List Char} (h : Framed cs)
include h

theorem Framed.last_not_blank (n : Nat) :
    ∃ mid d, cs ++ closingRun n = mid ++ [d] ∧ isBlank d = false := by
  obtain ⟨body, c, m, rfl, hc⟩ := h.last
  cases n with
  | zero =>
    rw [closingRun, List.append_nil]
    cases m with
    | zero => exact ⟨body, c, rfl, not_blank_of_alphanumeric hc⟩
    | succ m =>
      exact ⟨body ++ c :: List.replicate m '#', '#', by simp [List.replicate_succ'], by decide⟩
  | succ n =>
    exact ⟨body ++ c :: List.replicate m '#' ++ ' ' :: List.replicate n '#', '#',
      by simp [closingRun, List.replicate_succ'], by decide⟩

theorem Framed.trim_eq {front : List Char} (hfront : ∀ c ∈ front, isBlank c = true) (n : Nat) :
    trim (front ++ (cs ++ closingRun n)) = cs ++ closingRun n := by
  obtain ⟨mid, d, hlast, hd⟩ := h.last_not_blank n
  obtain ⟨c, rest, hcs, hc⟩ := h.first
  have hhead : (cs ++ closingRun n).head? = some c := by rw [hcs]; rfl
  rw [← List.append_nil (front ++ _)]
  exact trim_between hfront (by simp) hhead (not_blank_of_alphanumeric hc) hlast hd

theorem Framed.trim_line {level : Nat} (hlevel : 1 ≤ level) (n : Nat) :
    trim (List.replicate level '#' ++ ' ' :: (cs ++ closingRun n)) =
      List.replicate level '#' ++ ' ' :: (cs ++ closingRun n) := by
  obtain ⟨mid, d, hlast, hd⟩ := h.last_not_blank n
  obtain ⟨k, rfl⟩ := Nat.exists_eq_add_of_le' hlevel
  have hline : List.replicate (k + 1) '#' ++ ' ' :: (cs ++ closingRun n) =
      List.replicate (k + 1) '#' ++ ' ' :: mid ++ [d] := by
    rw [hlast, ← List.cons_append, ← List.append_assoc]
  exact trim_eq_self (c := '#') rfl (by decide) hline hd

/-- The number signs that close a heading go, those of its last word stay. -/
theorem Framed.headingText_eq (n : Nat) : Reader.headingText (cs ++ closingRun n) = cs := by
  obtain ⟨body, c, m, rfl, hc⟩ := h.last
  have hsign : c ≠ '#' := ne_of_alphanumeric hc (by decide)
  have hspace : c ≠ ' ' := ne_of_alphanumeric hc (by decide)
  have hself := dropWhileEnd_signs (p := (· = ' ')) (by simpa using hspace) (by decide) body m
  cases n with
  | zero =>
    rw [closingRun, List.append_nil, Reader.headingText, hself, dropWhileEnd_sign hsign]
    simp [hspace]
  | succ n =>
    have hrun : ∀ cs, dropWhileEnd (· = ' ') (cs ++ ' ' :: List.replicate (n + 1) '#') =
        cs ++ ' ' :: List.replicate (n + 1) '#' := by
      intro cs
      rw [List.replicate_succ', ← List.cons_append, ← List.append_assoc, dropWhileEnd_concat (by decide)]
    rw [closingRun, Reader.headingText, hrun, dropWhileEnd_sign (by decide)]
    rw [if_neg (by simp), if_pos List.getLast?_concat, dropWhileEnd_append (by simp), hself]

/-- The title loses both. -/
theorem Framed.bareTitle_eq {level : Nat} (hlevel : 1 ≤ level) (n : Nat) :
    bareTitle (List.replicate level '#' ++ ' ' :: (cs ++ closingRun n)) =
      if n = 0 then dropWhileEnd (· = '#') cs else cs := by
  have htrim : trim ([' '] ++ (cs ++ closingRun n)) = cs ++ closingRun n :=
    h.trim_eq (List.forall_mem_singleton.mpr rfl) n
  rw [bareTitle, h.trim_line hlevel, List.dropWhile_append_of_pos (by simp),
    List.dropWhile_cons_of_neg (by decide), ← List.singleton_append, htrim]
  obtain ⟨body, c, m, rfl, hc⟩ := h.last
  have hsign : c ≠ '#' := ne_of_alphanumeric hc (by decide)
  have hblank := not_blank_of_alphanumeric hc
  cases n with
  | zero =>
    rw [closingRun, List.append_nil, dropWhileEnd_sign hsign, trimEnd, dropWhileEnd_concat hblank,
      if_pos rfl]
  | succ n =>
    rw [closingRun, dropWhileEnd_sign (by decide), trimEnd, dropWhileEnd_append (List.forall_mem_singleton.mpr rfl),
      dropWhileEnd_signs hblank (by decide), if_neg (Nat.succ_ne_zero n)]

end Framed

/-! ## Files of prose -/

theorem classifyFrom_proseOnly {l : Language} (hl : l.proseOnly = true) (first : Bool)
    (state : Passage.State) (lines : List (List Char)) :
    Passage.classifyFrom l first state lines =
      lines.map fun cs => { kind := some .prose, line := .plain cs } := by
  induction lines generalizing first with
  | nil => rfl
  | cons cs lines ih =>
    have hline : Passage.classifyLine l first state cs =
        ({ kind := some .prose, line := .plain cs }, state) := if_pos hl
    rw [Passage.classifyFrom, hline]
    exact congrArg (_ :: ·) (ih false)

theorem settle_prose (before : Option Passage.Kind) (lines : List (List Char)) :
    Passage.settle before (lines.map fun cs => { kind := some .prose, line := .plain cs }) =
      lines.map fun cs => ⟨.prose, .plain cs, false⟩ := by
  induction lines generalizing before with
  | nil => rfl
  | cons cs lines ih =>
    rw [List.map_cons, Passage.settle_cons, List.map_cons, ← ih (some .prose)]
    rfl

/-- A file of prose is one passage, whose lines are all text. -/
theorem segment_proseOnly {l : Language} (hl : l.proseOnly = true) {text : String}
    (hne : Text.lines text.toList ≠ []) :
    Passage.segment l text =
      [{ kind := .prose, start := 1, lines := (Text.lines text.toList).map .plain }] := by
  rw [Passage.segment_eq, Passage.classify, classifyFrom_proseOnly hl, settle_prose,
    Passage.runs_eq_singleton (k := .prose) (by simpa using hne) (by simp)]
  obtain ⟨first, lines, hlines⟩ := List.exists_cons_of_ne_nil hne
  rw [hlines]
  simp [Passage.number, Passage.runKind]

theorem text_plain (start : Nat) (lines : List (List Char)) :
    ({ kind := .prose, start, lines := lines.map .plain } : Passage).text.toList =
      ['\n'].intercalate lines := by
  simp [Passage.text, Text.join, Passage.Line.plain, Function.comp_def]

/-- The first line that says anything gives the title. -/
theorem titleOf_plain {blanks : List (List Char)} (hblanks : ∀ b ∈ blanks, allBlank b = true)
    {line : List Char} (hline : bareTitle line ≠ []) (rest : List (List Char)) (source : String) :
    titleOf [{ kind := .prose, start := 1, lines := (blanks ++ line :: rest).map .plain }] source =
      String.ofList (bareTitle line) := by
  have hbare : ∀ b ∈ blanks, bareTitle b = [] := by
    intro b hb
    rw [bareTitle, trim_of_blank (hblanks b hb)]
    rfl
  have hfind : ((blanks ++ line :: rest).map bareTitle).find? (· ≠ []) = some (bareTitle line) := by
    rw [List.map_append, List.find?_append, List.find?_eq_none.mpr (by simpa using hbare),
      List.map_cons, List.find?_cons_of_pos (by simpa using hline)]
    rfl
  simp only [titleOf, Passage.isProse, List.find?_cons, decide_true, Option.bind_some, List.map_map,
    Function.comp_def, Passage.Line.plain, String.toList_ofList]
  rw [hfind]

/-! ## The first heading -/

/-- A heading without markup is found with its text. -/
theorem finds_literal (line : Nat → Nat) (c : Outline.Collector) (level offset : Nat) (text : String) :
    ∃ anchor, Outline.Collector.Finds c
      ((within (.heading level offset) [.text text]).foldl (Outline.Collector.step line) c)
      [⟨level, String.ofList (trim text.toList), anchor, line offset⟩] := by
  have hfold : (within (.heading level offset) [.text text]).foldl (Outline.Collector.step line) c =
      { c with current := some { level, line := line offset, text } }.stopHeading := by
    simp [within, Outline.Collector.step, Outline.Collector.write]
  refine ⟨(c.anchors.take (String.ofList (trim text.toList))).1, ?_⟩
  rw [hfold]
  exact ⟨rfl, rfl, rfl, rfl⟩

/-- Nothing before it is a heading, and what comes after it is found behind it. -/
theorem ofPassages_first {p : Passage} (hp : p.isProse = true) {before later : List Event}
    {level offset : Nat} {text : String}
    (h : events p.text = before ++ (within (.heading level offset) [.text text] ++ later))
    (hbefore : ∀ e ∈ before, marksHeading e = false) (hlater : Walk later) :
    ∃ anchor line more, (Outline.ofPassages [p]).headings =
      ⟨level, String.ofList (trim text.toList), anchor, line⟩ :: more := by
  let line := Outline.lineAt p.start p.text.toList
  have hnothing := Outline.Collector.finds_nothing (Outline.Collector.alike_foldl line {} hbefore) rfl
  obtain ⟨anchor, hfirst⟩ := finds_literal line (before.foldl (.step line) {}) level offset text
  obtain ⟨more, hmore, -⟩ := Outline.Collector.finds_walk line hlater _ hfirst.outside
  have hall := (hnothing.trans (hfirst.trans hmore)).headings
  refine ⟨anchor, line offset, more, ?_⟩
  rw [Outline.ofPassages, List.filter_cons_of_pos hp, List.filter_nil, List.foldl_cons, List.foldl_nil,
    Outline.Collector.passage]
  dsimp only
  rw [h, List.foldl_append, List.foldl_append, hall]
  simp [line]

/-- The first line of the text that says anything is the line of a heading. -/
structure Headed (text : String) (level : Nat) (words : List (List Char)) (closing : Nat) : Prop where
  range : 1 ≤ level ∧ level ≤ 6
  spelled : AreWords words
  lines : ∃ blanks rest, Text.lines text.toList = blanks ++
    (List.replicate level '#' ++ ' ' :: (spaced words ++ closingRun closing)) :: rest ∧
    ∀ b ∈ blanks, allBlank b = true

section Headed

variable {text : String} {level closing : Nat} {words : List (List Char)}
  (h : Headed text level words closing)
include h

theorem Headed.opens : ∃ front, Opens (['\n'].intercalate (Text.lines text.toList)) front level
    (spaced words ++ closingRun closing) := by
  obtain ⟨blanks, rest, hlines, hblanks⟩ := h.lines
  have hnone : ∀ c, isAlphanumeric c = false → c ≠ '#' → c ≠ ' ' →
      c ∉ spaced words ++ closingRun closing := by
    intro c halnum hsign hspace hm
    obtain hm | hm := List.mem_append.mp hm
    · have hcases := h.spelled.cases_of_mem hm
      simp [halnum, hsign, hspace] at hcases
    · cases closing with
      | zero => simp [closingRun] at hm
      | succ n => simp [closingRun, hsign, hspace] at hm
  refine ⟨ended blanks, ?_, ?_, h.range, ⟨hnone _ (by decide) (by decide) (by decide),
    hnone _ (by decide) (by decide) (by decide), ?_⟩, rest.flatMap (['\n'] ++ ·), ?_, ?_⟩
  · intro c hc
    obtain ⟨b, hb, hc⟩ := List.mem_flatMap.mp hc
    obtain hc | hc := List.mem_append.mp hc
    · exact List.all_eq_true.mp (hblanks b hb) c hc
    · rw [List.mem_singleton.mp hc]
      rfl
  · rw [Whole, ended, ← List.head?_reverse]
    obtain rfl | ⟨early, b, rfl⟩ := List.eq_nil_or_concat blanks
    · exact .inl rfl
    · exact .inr (by simp)
  · obtain ⟨c, rest, hcs, hc⟩ := h.spelled.framed.first
    intro d hd
    rw [hcs, List.cons_append, List.head?_cons, Option.mem_some_iff] at hd
    exact hd ▸ not_space_of_alphanumeric hc
  · cases rest with
    | nil => exact .inl rfl
    | cons next rest => exact .inr ⟨_, rfl⟩
  · rw [hlines, intercalate_append_cons]
    rfl

variable {l : Language} (hl : l.proseOnly = true)
include hl

theorem Headed.title_eq (path : String) (m : PageMap) :
    (read path text l m).title = String.ofList
      (if closing = 0 then dropWhileEnd (· = '#') (spaced words) else spaced words) := by
  obtain ⟨blanks, rest, hlines, hblanks⟩ := h.lines
  have htitle := h.spelled.framed.bareTitle_eq h.range.1 closing
  obtain ⟨c, _, hcs, _⟩ := h.spelled.framed.first
  obtain ⟨body, d, n, hds, hd⟩ := h.spelled.framed.last
  have hne : bareTitle (List.replicate level '#' ++ ' ' :: (spaced words ++ closingRun closing)) ≠ [] := by
    rw [htitle]
    split
    · rw [hds, dropWhileEnd_sign (ne_of_alphanumeric hd (by decide))]
      simp
    · simp [hcs]
  rw [read]
  dsimp only
  rw [segment_proseOnly hl (by simp [hlines]), hlines, titleOf_plain hblanks hne, htitle]

theorem Headed.heading_eq (path : String) (m : PageMap) :
    ∃ anchor line later, (read path text l m).headings =
      ⟨level, String.ofList (spaced words), anchor, line⟩ :: later := by
  obtain ⟨blanks, rest, hlines, -⟩ := h.lines
  obtain ⟨front, hopens⟩ := h.opens
  rw [← text_plain 1] at hopens
  have hfilled : (spaced words).any (!isSpace ·) = true := by
    obtain ⟨c, rest, hcs, hc⟩ := h.spelled.framed.first
    rw [hcs, List.any_cons, not_space_of_alphanumeric hc]
    rfl
  have htrim : trim (spaced words) = spaced words := by
    simpa [closingRun] using h.spelled.framed.trim_eq (List.forall_mem_nil _) 0
  obtain ⟨before, later, hevents, hbefore, hlater⟩ := hopens.events_eq
    (h.spelled.framed.headingText_eq closing) h.spelled.isLiteral hfilled
  obtain ⟨anchor, line, more, hheadings⟩ := ofPassages_first rfl hevents hbefore hlater
  rw [String.toList_ofList, htrim] at hheadings
  exact ⟨anchor, line, more, by rw [read, segment_proseOnly hl (by simp [hlines]), hheadings]⟩

end Headed

theorem Framed.dropWhileEnd_eq_self_iff {cs : List Char} (h : Framed cs) :
    dropWhileEnd (· = '#') cs = cs ↔ cs.getLast? ≠ some '#' := by
  obtain ⟨body, c, n, rfl, hc⟩ := h.last
  have hsign : c ≠ '#' := ne_of_alphanumeric hc (by decide)
  rw [dropWhileEnd_sign hsign]
  cases n with
  | zero => simp [hsign]
  | succ n => simp [List.getLast?_cons, List.replicate_succ']

/-- The first heading of a file of prose is the text of the line, without the number signs that close
it. The title is the same unless nothing closes the line: then it also lacks the number signs at the end
of the last word. -/
theorem title_eq_first_heading_iff {text : String} {level closing : Nat} {words : List (List Char)}
    (h : Headed text level words closing) {l : Language} (hl : l.proseOnly = true) (path : String)
    (m : PageMap) :
    let d := read path text l m
    d.headings.head?.map (fun g => (g.level, g.text)) = some (level, String.ofList (spaced words)) ∧
      d.title = String.ofList
        (if closing = 0 then dropWhileEnd (· = '#') (spaced words) else spaced words) ∧
      (d.title = String.ofList (spaced words) ↔
        closing ≠ 0 ∨ (spaced words).getLast? ≠ some '#') := by
  intro d
  have htitle : d.title = _ := h.title_eq hl path m
  obtain ⟨anchor, line, later, hheadings⟩ := h.heading_eq hl path m
  have hhead : d.headings = _ := hheadings
  refine ⟨by rw [hhead]; rfl, htitle, ?_⟩
  rw [htitle, String.ofList_inj]
  by_cases hclosing : closing = 0
  · rw [if_pos hclosing, h.spelled.framed.dropWhileEnd_eq_self_iff]
    simp [hclosing]
  · simp [hclosing]

/-- A heading that ends in a number sign of its own: the title loses it. -/
theorem title_loses_sign_of_word :
    let l := { Language.named "Markdown" with proseOnly := true }
    let d := read "a.md" "# C#\n" l {}
    Headed "# C#\n" 1 [['C', '#']] 0 ∧
      d.headings.head?.map (fun g => (g.level, g.text)) = some (1, "C#") ∧ d.title = "C" := by
  intro l d
  have hwords : AreWords [['C', '#']] := by
    refine ⟨?_, ⟨'C', ['#'], [], rfl, by decide⟩, ⟨[], ['C', '#'], rfl, 'C', by simp, by decide⟩⟩
    rw [List.forall_mem_singleton, List.forall_mem_cons, List.forall_mem_singleton]
    exact ⟨.inl (by decide), .inr rfl⟩
  have hheaded : Headed "# C#\n" 1 [['C', '#']] 0 :=
    ⟨by decide, hwords, [], [], by decide, by simp⟩
  obtain ⟨hhead, htitle, -⟩ := title_eq_first_heading_iff hheaded (l := l) rfl "a.md" {}
  exact ⟨hheaded, hhead, htitle⟩

end Marginalia.Document
