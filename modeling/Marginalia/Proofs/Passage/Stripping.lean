import Marginalia.Proofs.Passage.Settling

/-! What is taken off a line of prose: indentation, markers and single blanks. -/
namespace Marginalia.Passage
open Text Marginalia.Language
set_option autoImplicit false

/-! ## Single blanks -/

/-- One blank, or none where the text does not start with one. -/
def IsGap (gap text : List Char) : Prop :=
  (∃ c, isBlank c = true ∧ gap = [c]) ∨ gap = [] ∧ ∀ c ∈ text.head?, isBlank c = false

theorem exists_gap (cs : List Char) :
    ∃ gap text, cs = gap ++ text ∧ gap.length = leadingBlank cs ∧ IsGap gap text := by
  cases cs with
  | nil => exact ⟨[], [], rfl, rfl, .inr ⟨rfl, by simp⟩⟩
  | cons c cs =>
    cases hb : isBlank c with
    | true => exact ⟨[c], cs, rfl, by simp [leadingBlank, hb], .inl ⟨c, hb, rfl⟩⟩
    | false => exact ⟨[], c :: cs, rfl, by simp [leadingBlank, hb], .inr ⟨rfl, by simp [hb]⟩⟩

theorem exists_gap_end (cs : List Char) :
    ∃ text gap, cs = text ++ gap ∧ gap.length = trailingBlank cs ∧ IsGap gap text.reverse := by
  obtain ⟨gap, text, he, hl, hg⟩ := exists_gap cs.reverse
  refine ⟨text.reverse, gap, ?_, hl, by rwa [List.reverse_reverse]⟩
  have hpal : gap.reverse = gap := by
    obtain ⟨c, -, rfl⟩ | ⟨rfl, -⟩ := hg <;> rfl
  have h := congrArg List.reverse he
  rwa [List.reverse_reverse, List.reverse_append, hpal] at h

theorem head?_of_append {cs rest : List Char} {c : Char} (h : c ∈ cs.head?) :
    c ∈ (cs ++ rest).head? := by
  cases cs with
  | nil => simp at h
  | cons d cs => exact h

theorem IsGap.of_append {gap text rest : List Char} (h : IsGap gap (text ++ rest)) :
    IsGap gap text :=
  h.imp_right fun h => ⟨h.1, fun c hc => h.2 c (head?_of_append hc)⟩

/-! ## Cuts -/

/-- The text starts behind the indentation, the mark and at most one blank. -/
def CutAfter (mark : List Char) (line : Line) : Prop :=
  ∃ gap, line.lead.toList =
      (line.lead.toList ++ line.content.toList).takeWhile isBlank ++ mark ++ gap ∧
    IsGap gap line.content.toList

/-- The text goes to the end of the line, or up to at most one blank, the closing marker and
blanks. -/
def Ended (closing : String) (line : Line) : Prop :=
  line.trail = "" ∨ ∃ gap rest, line.trail.toList = gap ++ closing.toList ++ rest ∧
    IsGap gap line.content.toList.reverse ∧ allBlank rest = true

theorem takeWhile_indent {indent text : List Char} (hi : ∀ c ∈ indent, isBlank c = true)
    (ht : ∀ c ∈ text.head?, isBlank c = false) : (indent ++ text).takeWhile isBlank = indent := by
  rw [List.takeWhile_append_of_pos hi]
  cases text with
  | nil => simp
  | cons c text => simp [ht c rfl]

theorem cut_append (lead content trail : List Char) :
    Line.cut (lead ++ content ++ trail) lead.length (lead ++ content).length =
      ⟨String.ofList lead, String.ofList content, String.ofList trail⟩ := by
  have hlead : (lead ++ content ++ trail).take lead.length = lead := by
    rw [List.append_assoc, List.take_left]
  rw [Line.cut, hlead, List.take_left, List.drop_left, List.drop_left]

theorem cutAfter_mk {indent mark gap content : List Char} {trail : String}
    (hi : ∀ c ∈ indent, isBlank c = true)
    (hm : ∀ c ∈ (mark ++ (gap ++ content)).head?, isBlank c = false) (hg : IsGap gap content) :
    CutAfter mark ⟨String.ofList (indent ++ mark ++ gap), String.ofList content, trail⟩ := by
  refine ⟨gap, ?_, by simpa using hg⟩
  have h := takeWhile_indent hi hm
  simp only [String.toList_ofList, List.append_assoc] at h ⊢
  rw [h]

/-- A line whose text goes to its end. -/
theorem cutAfter_unended {cs indent mark : List Char} {start : Nat} (rest : List Char)
    (hcs : cs = indent ++ mark ++ rest) (hstart : start = (indent ++ mark).length + leadingBlank rest)
    (hi : ∀ c ∈ indent, isBlank c = true)
    (hm : ∀ c ∈ (mark ++ rest).head?, isBlank c = false) :
    CutAfter mark (.cut cs start cs.length) ∧ (Line.cut cs start cs.length).trail = "" := by
  obtain ⟨gap, content, rfl, hl, hg⟩ := exists_gap rest
  have hcut := cut_append (indent ++ mark ++ gap) content []
  have hs : start = (indent ++ mark ++ gap).length := by rw [hstart, ← hl, ← List.length_append]
  have hc : cs = indent ++ mark ++ gap ++ content ++ [] := by rw [hcs]; simp
  have hlen : cs.length = (indent ++ mark ++ gap ++ content).length := by rw [hc, List.append_nil]
  rw [hlen, hs, hc, hcut]
  exact ⟨cutAfter_mk hi hm hg, rfl⟩

/-- A line whose text goes to the closing marker at `close`. -/
theorem cutAfter_ended {cs indent mark : List Char} {closing : String} {start close : Nat}
    (rest tail : List Char)
    (hcs : cs = indent ++ mark ++ rest ++ (closing.toList ++ tail))
    (hclose : close = (indent ++ mark ++ rest).length)
    (hstart : start = (indent ++ mark).length + leadingBlank rest)
    (hi : ∀ c ∈ indent, isBlank c = true)
    (hm : ∀ c ∈ (mark ++ rest).head?, isBlank c = false) (ht : allBlank tail = true) :
    CutAfter mark (.cut cs start (close - trailingBlank ((cs.take close).drop start))) ∧
      Ended closing (.cut cs start (close - trailingBlank ((cs.take close).drop start))) := by
  obtain ⟨gap, text, rfl, hl, hg⟩ := exists_gap rest
  obtain ⟨content, gap', rfl, hl', hg'⟩ := exists_gap_end text
  have hs : start = (indent ++ mark ++ gap).length := by rw [hstart, ← hl, ← List.length_append]
  have hrest : (cs.take close).drop start = content ++ gap' := by
    rw [hcs, hclose, List.take_left, hs, ← List.append_assoc, List.drop_left]
  have hstop : close - trailingBlank ((cs.take close).drop start) =
      (indent ++ mark ++ gap ++ content).length := by
    rw [hrest, ← hl', hclose]
    simp only [List.length_append]
    omega
  have hcut := cut_append (indent ++ mark ++ gap) content (gap' ++ closing.toList ++ tail)
  have hc : cs = indent ++ mark ++ gap ++ content ++ (gap' ++ closing.toList ++ tail) := by
    rw [hcs]
    simp
  rw [hstop, hs, hc, hcut]
  refine ⟨cutAfter_mk hi (fun c h => hm c ?_) hg.of_append, .inr ⟨gap', tail, ?_, ?_, ht⟩⟩
  · have hmore : c ∈ (mark ++ (gap ++ content) ++ gap').head? := head?_of_append h
    simpa using hmore
  · simp
  · simpa using hg'

/-! ## Where the text starts -/

theorem middleRun_skip (middle front back : List Char) :
    middleRun middle front.length (front ++ back) = front.length + middleRun middle 0 back := by
  induction front with
  | nil => simp
  | cons c front ih =>
    rw [List.length_cons, List.cons_append, middleRun, ih]
    omega

theorem middleRun_append {middle : List Char} (hne : middle ≠ []) (rest : List Char) :
    middleRun middle 0 (middle ++ rest) = middle.length + middleRun middle 0 rest := by
  obtain ⟨c, others, rfl⟩ := List.exists_cons_of_ne_nil hne
  have hs : startsWith (c :: others) (c :: (others ++ rest)) = true :=
    startsWith_iff.mpr (List.prefix_append (c :: others) rest)
  rw [List.cons_append, middleRun, hs]
  simp only [ne_eq, reduceCtorEq, not_false_eq_true, decide_true, Bool.and_self, if_true,
    List.length_cons, Nat.add_sub_cancel]
  rw [middleRun_skip]
  omega

theorem middleRun_of_not {middle cs : List Char} (h : ¬ (middle ≠ [] ∧ middle <+: cs)) :
    middleRun middle 0 cs = 0 := by
  cases cs with
  | nil => rfl
  | cons c cs =>
    have hcond : (middle ≠ [] && startsWith middle (c :: cs)) = false := by
      rw [← Bool.not_eq_true, Bool.and_eq_true, decide_eq_true_eq, startsWith_iff]
      exact h
    rw [middleRun, hcond]
    rfl

theorem middleRun_copies (middle cs : List Char) :
    ∃ n rest, cs = (List.replicate n middle).flatten ++ rest ∧
      middleRun middle 0 cs = (List.replicate n middle).flatten.length := by
  by_cases h : middle ≠ [] ∧ middle <+: cs
  · obtain ⟨hne, rest, rfl⟩ := h
    obtain ⟨n, rest', hrest, hrun⟩ := middleRun_copies middle rest
    refine ⟨n + 1, rest', ?_, ?_⟩
    · rw [List.replicate_succ, List.flatten_cons, List.append_assoc, ← hrest]
    · rw [List.replicate_succ, List.flatten_cons, List.length_append, ← hrun, middleRun_append hne]
  · exact ⟨0, cs, rfl, middleRun_of_not h⟩
termination_by cs.length
decreasing_by
  have hpos := List.length_pos_of_ne_nil hne
  rw [← ‹middle ++ rest = cs›, List.length_append]
  omega

theorem openingStart_eq (b : BlockComment) (cs : List Char) :
    ∃ n rest, cs = (List.replicate n (middleMark b)).flatten ++ rest ∧
      openingStart b cs =
        (List.replicate n (middleMark b)).flatten.length + leadingBlank rest := by
  obtain ⟨n, rest, hcs, hrun⟩ := middleRun_copies (middleMark b) cs
  refine ⟨n, rest, hcs, ?_⟩
  have hdrop : cs.drop (middleRun (middleMark b) 0 cs) = rest := by
    rw [hrun]
    nth_rewrite 1 [hcs]
    exact List.drop_left
  rw [openingStart, hdrop, hrun]

theorem interiorStart_eq (b : BlockComment) (cs : List Char) :
    ∃ mark rest, (mark = [] ∨ mark = middleMark b) ∧ trimStart cs = mark ++ rest ∧
      interiorStart b cs = (cs.takeWhile isBlank ++ mark).length + leadingBlank rest := by
  have hbare : leadingBlank (trimStart cs) = 0 := by
    cases ht : trimStart cs with
    | nil => rfl
    | cons c rest =>
      have hc : isBlank c = false := not_blank_of_head?_trimStart c (by rw [ht]; rfl)
      simp [leadingBlank, hc]
  simp only [interiorStart, length_sub_trimStart]
  split
  next rest ha =>
    have ht := after?_eq_some_iff.mp ha
    split
    · exact ⟨[], trimStart cs, .inl rfl, rfl, by simp [hbare]⟩
    · exact ⟨middleMark b, rest, .inr rfl, ht, by simp⟩
  next => exact ⟨[], trimStart cs, .inl rfl, rfl, by simp [hbare]⟩

/-! ## Lines with comments -/

theorem indent_append (cs : List Char) : cs.takeWhile isBlank ++ trimStart cs = cs :=
  List.takeWhile_append_dropWhile

theorem indent_blank (cs : List Char) : ∀ c ∈ cs.takeWhile isBlank, isBlank c = true :=
  fun _ hc => List.mem_takeWhile_imp hc

/-- What follows a closing marker behind which there is no code. -/
theorem exists_tail {b : BlockComment} {cs : List Char} {close : Nat}
    (hs : startsWith b.closing.toList (cs.drop close) = true) (hc : ¬ codeAfter b cs close = true) :
    ∃ tail, cs.drop close = b.closing.toList ++ tail ∧ allBlank tail = true := by
  obtain ⟨tail, ht⟩ := startsWith_iff.mp hs
  refine ⟨tail, ht.symm, ?_⟩
  have hdrop : cs.drop (close + b.closing.length) = tail := by
    rw [← List.drop_drop, ← ht, ← String.length_toList, List.drop_left]
  rwa [codeAfter, hdrop, Bool.not_eq_true', Bool.not_eq_false] at hc

/-- A line with a marker at its indentation, and what follows the marker. -/
theorem exists_body {l : Language} {cs : List Char} {m : Marker} (h : Fits l (trimStart cs) m) :
    ∃ body, cs = cs.takeWhile isBlank ++ m.text.toList ++ body ∧
      cs.drop (cs.length - (trimStart cs).length + m.text.length) = body ∧
      ∀ c ∈ (m.text.toList ++ body).head?, isBlank c = false := by
  obtain ⟨body, hbody⟩ := h.prefix_text
  refine ⟨body, ?_, ?_, ?_⟩
  · rw [List.append_assoc, hbody, indent_append]
  · rw [drop_indent, ← hbody, ← String.length_toList, List.drop_left]
  · rw [hbody]
    exact not_blank_of_head?_trimStart

theorem lineComment_cutAfter {l : Language} {cs : List Char} {marker : String}
    (hf : Fits l (trimStart cs) (.line marker))
    (hk : (lineComment l cs (cs.length - (trimStart cs).length) marker).kind = some .prose) :
    ∃ fold, (fold = "" ∨ l.foldMark = some fold) ∧
      CutAfter (marker.toList ++ fold.toList)
        (lineComment l cs (cs.length - (trimStart cs).length) marker).line ∧
      (lineComment l cs (cs.length - (trimStart cs).length) marker).line.trail = "" := by
  obtain ⟨body, hcs, hdrop, hhead⟩ := exists_body hf
  rw [Marker.text] at hcs hdrop hhead
  simp only [lineComment, hdrop] at hk ⊢
  split at hk
  · cases hk
  next hignore =>
    rw [if_neg hignore]
    split
    next hfold =>
      obtain ⟨fold, hmark, -, rest, rfl⟩ := bears_iff.mp hfold
      have hrest : cs.drop (cs.length - (trimStart cs).length + marker.length + fold.length) =
          rest := by
        rw [← List.drop_drop, hdrop, ← String.length_toList, List.drop_left]
      simp only [hmark, Option.getD_some, hrest, proseLine]
      refine ⟨fold, .inr rfl, cutAfter_unended rest ?_ ?_ (indent_blank cs) ?_⟩
      · simpa using hcs
      · simp only [length_sub_trimStart, List.length_append, String.length_toList]
        omega
      · simpa using hhead
    next =>
      refine ⟨"", .inl rfl, cutAfter_unended body ?_ ?_ (indent_blank cs) ?_⟩
      · simpa using hcs
      · simp [length_sub_trimStart, String.length_toList]
      · simpa using hhead

theorem openComment_cutAfter {l : Language} {cs : List Char} {b : BlockComment}
    (hf : Fits l (trimStart cs) (.block b))
    (hk : (openComment l cs (cs.length - (trimStart cs).length) b).1.kind = some .prose) :
    ∃ n, CutAfter (b.opening.toList ++ (List.replicate n (middleMark b)).flatten)
        (openComment l cs (cs.length - (trimStart cs).length) b).1.line ∧
      Ended b.closing (openComment l cs (cs.length - (trimStart cs).length) b).1.line := by
  obtain ⟨body, hcs, hdrop, hhead⟩ := exists_body hf
  rw [Marker.text] at hcs hdrop hhead
  simp only [openComment, hdrop] at hk ⊢
  split at hk
  next offset hclose =>
    split at hk
    · cases hk
    next hcode =>
      obtain ⟨hlt, hs⟩ := findClose_ok hclose
      have hinner : (cs.take (cs.length - (trimStart cs).length + b.opening.length + offset)).drop
          (cs.length - (trimStart cs).length + b.opening.length) = body.take offset := by
        rw [List.drop_take, hdrop, Nat.add_sub_cancel_left]
      have hafter : cs.drop (cs.length - (trimStart cs).length + b.opening.length + offset) =
          body.drop offset := by rw [← List.drop_drop, hdrop]
      rw [← hafter] at hs
      obtain ⟨tail, htail, hblank⟩ := exists_tail hs hcode
      rw [hafter] at htail
      obtain ⟨n, rest, hrest, hstart⟩ := openingStart_eq b (body.take offset)
      rw [if_neg hcode, hinner, hstart]
      have hbody : body = (List.replicate n (middleMark b)).flatten ++ rest ++
          (b.closing.toList ++ tail) := by
        rw [← hrest, ← htail, List.take_append_drop]
      have hoffset : offset = ((List.replicate n (middleMark b)).flatten ++ rest).length := by
        rw [← hrest, List.length_take]
        omega
      refine ⟨n, cutAfter_ended rest tail ?_ ?_ ?_ (indent_blank cs) ?_ hblank⟩
      · rw [hbody] at hcs
        simpa using hcs
      · rw [hoffset]
        simp only [length_sub_trimStart, List.length_append, String.length_toList]
        omega
      · simp only [length_sub_trimStart, List.length_append, String.length_toList]
        omega
      · intro c hc
        have hmore : c ∈ (b.opening.toList ++ (List.replicate n (middleMark b)).flatten ++ rest ++
            (b.closing.toList ++ tail)).head? := head?_of_append hc
        refine hhead c ?_
        rw [hbody]
        simpa using hmore
  next depth hopen =>
    obtain ⟨n, rest, rfl, hstart⟩ := openingStart_eq b body
    rw [hstart]
    refine ⟨n, (cutAfter_unended rest ?_ ?_ (indent_blank cs) ?_).imp_right .inl⟩
    · simpa using hcs
    · simp only [length_sub_trimStart, List.length_append, String.length_toList]
      omega
    · simpa using hhead

theorem insideComment_cutAfter {l : Language} {cs : List Char} {b : BlockComment} {depth : Nat}
    (hk : (insideComment l cs b depth).1.kind = some .prose) :
    ∃ mark, (mark = [] ∨ mark = middleMark b) ∧
      CutAfter mark (insideComment l cs b depth).1.line ∧
      Ended b.closing (insideComment l cs b depth).1.line := by
  simp only [insideComment] at hk ⊢
  split at hk
  next close hclose =>
    split at hk
    · cases hk
    next hcode =>
      obtain ⟨hlt, hs⟩ := findClose_ok hclose
      obtain ⟨tail, htail, hblank⟩ := exists_tail hs hcode
      obtain ⟨mark, rest, hmark, hrest, hstart⟩ := interiorStart_eq b (cs.take close)
      rw [if_neg hcode, hstart]
      have hbefore : cs.take close = (cs.take close).takeWhile isBlank ++ mark ++ rest := by
        rw [List.append_assoc, ← hrest, indent_append]
      refine ⟨mark, hmark, cutAfter_ended rest tail ?_ ?_ rfl (indent_blank _) ?_ hblank⟩
      · rw [← hbefore, ← htail, List.take_append_drop]
      · rw [← hbefore, List.length_take, Nat.min_eq_left hlt.le]
      · rw [← hrest]
        exact not_blank_of_head?_trimStart
  next depth' hopen =>
    obtain ⟨mark, rest, hmark, hrest, hstart⟩ := interiorStart_eq b cs
    rw [hstart]
    refine ⟨mark, hmark, (cutAfter_unended rest ?_ rfl (indent_blank cs) ?_).imp_right .inl⟩
    · rw [List.append_assoc, ← hrest, indent_append]
    · rw [← hrest]
      exact not_blank_of_head?_trimStart

/-! ## Lines of prose -/

/-- What is left of a line of prose that the reader meets in the given state. -/
inductive Stripped (l : Language) (state : State) (line : Line) : Prop where
  | whole (lead : line.lead = "") (trail : line.trail = "")
      (why : l.proseOnly = true ∨ state = .outside ∧ allBlank line.content.toList = true)
  | line (marker fold : String) (outside : state = .outside)
      (matched : l.marker? (trimStart line.whole.toList) = some (.line marker))
      (folds : fold = "" ∨ l.foldMark = some fold)
      (cut : CutAfter (marker.toList ++ fold.toList) line) (trail : line.trail = "")
  | opening (b : BlockComment) (copies : Nat) (outside : state = .outside)
      (matched : l.marker? (trimStart line.whole.toList) = some (.block b))
      (cut : CutAfter (b.opening.toList ++ (List.replicate copies (middleMark b)).flatten) line)
      (ended : Ended b.closing line)
  | inner (b : BlockComment) (depth : Nat) (mark : List Char) (inside : state = .inside b depth)
      (middle : mark = [] ∨ mark = middleMark b) (cut : CutAfter mark line)
      (ended : Ended b.closing line)

theorem readBy_stripped {l : Language} {cs : List Char}
    (hk : (readBy l cs (l.marker? (trimStart cs))).1.kind = some .prose)
    (hw : (readBy l cs (l.marker? (trimStart cs))).1.line.whole.toList = cs) :
    Stripped l .outside (readBy l cs (l.marker? (trimStart cs))).1.line := by
  rcases hm : l.marker? (trimStart cs) with _ | marker | b <;> rw [hm] at hk hw
  · cases hk
  · obtain ⟨fold, hfold, hcut, htrail⟩ := lineComment_cutAfter (marker?_longest hm).fits hk
    exact .line marker fold rfl (by rw [hw, hm]) hfold hcut htrail
  · obtain ⟨n, hcut, hended⟩ := openComment_cutAfter (marker?_longest hm).fits hk
    exact .opening b n rfl (by rw [hw, hm]) hcut hended

theorem classifyLine_stripped {l : Language} {first : Bool} {state : State} {cs : List Char}
    (hk : (classifyLine l first state cs).1.kind = some .prose) :
    Stripped l state (classifyLine l first state cs).1.line := by
  have hw : (classifyLine l first state cs).1.line.whole.toList = cs := by
    rw [(classifyLine_cutFrom l first state cs).whole_eq, String.toList_ofList]
  unfold classifyLine at hk hw ⊢
  split at hk
  next hl =>
    rw [if_pos hl]
    exact .whole rfl rfl (.inl hl)
  next hl =>
    rw [if_neg hl] at hw ⊢
    cases state with
    | inside b depth =>
      obtain ⟨mark, hmark, hcut, hended⟩ := insideComment_cutAfter hk
      exact .inner b depth mark rfl hmark hcut hended
    | outside =>
      dsimp only at hk hw ⊢
      rw [outsideComment_eq] at hk hw ⊢
      split at hk
      · cases hk
      next hb =>
        rw [if_neg hb] at hw ⊢
        split at hk
        · cases hk
        next hsb =>
          rw [if_neg hsb] at hw ⊢
          exact readBy_stripped hk hw

/-- Nothing but indentation, markers and single blanks is taken off a line of prose, and nothing off
a line of code. -/
theorem segment_stripped (l : Language) (text : String) {p : Passage} (hp : p ∈ segment l text)
    {k : Nat} {line : Line} (hk : p.lines[k]? = some line) :
    (p.kind = .code → line.lead = "" ∧ line.trail = "") ∧
    (p.kind = .prose → Stripped l (stateBefore l text (p.start - 1 + k)) line) := by
  obtain ⟨s, hs, hkind, hline⟩ := segment_line hp hk
  rw [settle_getElem?, Option.map_eq_some_iff] at hs
  obtain ⟨c, hc, rfl⟩ := hs
  rw [classify_getElem?, Option.map_eq_some_iff] at hc
  obtain ⟨cs, -, rfl⟩ := hc
  rw [← hkind, ← hline]
  obtain h | ⟨h, -⟩ | ⟨h, hblank, hstate⟩ :=
    classifyLine_kind l (p.start - 1 + k == 0) (stateBefore l text (p.start - 1 + k)) cs
  · refine ⟨fun hcode => ?_, fun _ => classifyLine_stripped h⟩
    simp [h] at hcode
  · rw [h]
    refine ⟨fun _ => ⟨rfl, rfl⟩, fun hprose => ?_⟩
    cases hprose
  · rw [h]
    refine ⟨fun _ => ⟨rfl, rfl⟩, fun _ => .whole rfl rfl (.inr ⟨hstate, ?_⟩)⟩
    simpa [Line.plain] using hblank

theorem segment_stripped_inner :
    (⟨.prose, 1, [⟨"/** ", "a", ""⟩, ⟨" * ", "b", " */"⟩], false⟩ : Passage) ∈
      segment { name := "C", blockComments := [⟨"/*", "*/", some "*"⟩] } "/** a\n * b */" ∧
    Stripped { name := "C", blockComments := [⟨"/*", "*/", some "*"⟩] }
      (.inside ⟨"/*", "*/", some "*"⟩ 1) ⟨" * ", "b", " */"⟩ := by
  have hp : (⟨.prose, 1, [⟨"/** ", "a", ""⟩, ⟨" * ", "b", " */"⟩], false⟩ : Passage) ∈
      segment { name := "C", blockComments := [⟨"/*", "*/", some "*"⟩] } "/** a\n * b */" := by
    decide
  exact ⟨hp, (segment_stripped _ _ hp (k := 1) rfl).2 rfl⟩

end Marginalia.Passage
