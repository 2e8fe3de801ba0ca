import Marginalia.Proofs.Passage.Marker
import Marginalia.Proofs.Passage.Progress

/-! Blank lines outside comments are settled by the nearest lines before and after them that have a
kind, and no passage of code that follows prose is all blank. -/
namespace Marginalia.Passage
open Text Marginalia.Language
set_option autoImplicit false

/-! ## Blank lines between others -/

/-- The kind of the nearest line before line `i` that has one. -/
def kindBefore? (cs : List Classified) (i : Nat) : Option Kind :=
  ((cs.take i).filterMap (·.kind)).getLast?

/-- The kind of the nearest line after line `i` that has one. -/
def kindAfter? (cs : List Classified) (i : Nat) : Option Kind :=
  ((cs.drop (i + 1)).filterMap (·.kind)).head?

/-- What a blank line becomes between lines of the given kinds. -/
inductive Between : (before after : Option Kind) → Kind → Prop where
  | withinProse : Between (some .prose) (some .prose) .prose
  | endOfProse : Between (some .prose) none .prose
  | beforeCode : Between (some .prose) (some .code) .code
  | afterCode (after : Option Kind) : Between (some .code) after .code
  | atStart (k : Kind) : Between none (some k) k
  | alone : Between none none .code

theorem between_blankKind (before after : Option Kind) :
    Between before after (blankKind before after) := by
  rcases before with _ | _ | _
  · rcases after with _ | k
    · exact .alone
    · exact .atStart k
  · rcases after with _ | _ | _
    · exact .endOfProse
    · exact .withinProse
    · exact .beforeCode
  · exact .afterCode after

theorem firstKind?_eq (cs : List Classified) : firstKind? cs = (cs.filterMap (·.kind)).head? := by
  induction cs with
  | nil => rfl
  | cons c rest ih =>
    cases hk : c.kind with
    | none => rw [firstKind?, hk, List.filterMap_cons_none hk, ih, Option.none_or]
    | some k => rw [firstKind?, hk, List.filterMap_cons_some hk, List.head?_cons, Option.some_or]

theorem kindBefore?_succ (c : Classified) (rest : List Classified) (i : Nat) (before : Option Kind) :
    (kindBefore? (c :: rest) (i + 1)).or before = (kindBefore? rest i).or (c.kind.or before) := by
  cases hk : c.kind with
  | none => rw [kindBefore?, List.take_succ_cons, List.filterMap_cons_none hk, Option.none_or]; rfl
  | some k =>
    rw [kindBefore?, List.take_succ_cons, List.filterMap_cons_some hk, List.getLast?_cons,
      Option.some_or, Option.some_or, kindBefore?]
    cases ((rest.take i).filterMap (·.kind)).getLast? <;> rfl

/-- Every line keeps its text, and a line without a kind gets one from its neighbours. Before the
first line there is one of kind `before`. -/
theorem settle_getElem? (before : Option Kind) (cs : List Classified) (i : Nat) :
    (settle before cs)[i]? = cs[i]?.map fun c =>
      ⟨c.kind.getD (blankKind ((kindBefore? cs i).or before) (kindAfter? cs i)), c.line,
        c.fold⟩ := by
  induction cs generalizing before i with
  | nil => rfl
  | cons c rest ih =>
    cases i with
    | zero =>
      have hafter : kindAfter? (c :: rest) 0 = firstKind? rest := (firstKind?_eq rest).symm
      rw [settle_cons, hafter]
      rfl
    | succ i =>
      have hafter : kindAfter? (c :: rest) (i + 1) = kindAfter? rest i := rfl
      rw [settle_cons, List.getElem?_cons_succ, ih, kindBefore?_succ, hafter,
        List.getElem?_cons_succ]

/-! ## Lines of code are not blank -/

theorem not_allBlank_of_drop {cs : List Char} {n : Nat} (h : allBlank (cs.drop n) = false) :
    allBlank cs = false := by
  rw [← Bool.not_eq_true, allBlank, List.all_eq_true] at h ⊢
  exact fun hall => h fun c hc => hall c (List.mem_of_mem_drop hc)

theorem not_allBlank_of_codeAfter {b : BlockComment} {cs : List Char} {close : Nat}
    (h : codeAfter b cs close = true) : allBlank cs = false := by
  rw [codeAfter, Bool.not_eq_true'] at h
  exact not_allBlank_of_drop h

theorem lineComment_kind (l : Language) (cs : List Char) (indent : Nat) (marker : String) :
    (lineComment l cs indent marker).kind = some .prose ∨
      lineComment l cs indent marker = codeLine cs := by
  simp only [lineComment]
  split
  · exact .inr rfl
  · split <;> exact .inl rfl

theorem openComment_kind (l : Language) (cs : List Char) (indent : Nat) (b : BlockComment) :
    (openComment l cs indent b).1.kind = some .prose ∨
      (openComment l cs indent b).1 = codeLine cs ∧ allBlank cs = false := by
  simp only [openComment]
  split
  · split
    next hc => exact .inr ⟨rfl, not_allBlank_of_codeAfter hc⟩
    next => exact .inl rfl
  · exact .inl rfl

theorem insideComment_kind (l : Language) (cs : List Char) (b : BlockComment) (depth : Nat) :
    (insideComment l cs b depth).1.kind = some .prose ∨
      (insideComment l cs b depth).1 = codeLine cs ∧ allBlank cs = false := by
  simp only [insideComment]
  split
  · split
    next hc => exact .inr ⟨rfl, not_allBlank_of_codeAfter hc⟩
    next => exact .inl rfl
  · exact .inl rfl

theorem readBy_kind {l : Language} {cs : List Char} (hb : allBlank cs = false)
    (m : Option Marker) : (readBy l cs m).1.kind = some .prose ∨
      (readBy l cs m).1 = codeLine cs ∧ allBlank cs = false := by
  rcases m with _ | marker | b
  · exact .inr ⟨rfl, hb⟩
  · obtain h | h := lineComment_kind l cs (cs.length - (trimStart cs).length) marker
    · exact .inl h
    · exact .inr ⟨h, hb⟩
  · exact openComment_kind l cs _ b

/-- A line is prose, or code that is not blank, or it is blank and outside comments. -/
theorem classifyLine_kind (l : Language) (first : Bool) (state : State) (cs : List Char) :
    (classifyLine l first state cs).1.kind = some .prose ∨
    ((classifyLine l first state cs).1 = codeLine cs ∧ allBlank cs = false) ∨
    ((classifyLine l first state cs).1 = { kind := none, line := .plain cs } ∧
      allBlank cs = true ∧ state = .outside) := by
  unfold classifyLine
  split
  · exact .inl rfl
  · cases state with
    | inside b depth => exact (insideComment_kind l cs b depth).imp_right .inl
    | outside =>
      dsimp only
      rw [outsideComment_eq]
      split
      next hb => exact .inr (.inr ⟨rfl, hb, rfl⟩)
      next hb =>
        rw [Bool.not_eq_true] at hb
        split
        · exact .inr (.inl ⟨rfl, hb⟩)
        · exact (readBy_kind hb _).imp_right .inl

/-- A line that holds more than blanks. -/
def Line.isFilled (line : Line) : Bool :=
  !allBlank line.whole.toList

theorem classify_code_filled {l : Language} {text : String} {c : Classified}
    (hc : c ∈ classify l text) (hk : c.kind = some .code) : c.line.isFilled = true := by
  obtain ⟨i, hi⟩ := List.mem_iff_getElem?.mp hc
  rw [classify_getElem?, Option.map_eq_some_iff] at hi
  obtain ⟨cs, -, rfl⟩ := hi
  obtain h | ⟨h, hb⟩ | ⟨h, -⟩ := classifyLine_kind l (i == 0) (stateBefore l text i) cs
  · rw [h] at hk
    cases hk
  · rw [h]
    simp [codeLine, Line.plain, Line.isFilled, Line.whole, hb]
  · rw [h] at hk
    cases hk

/-! ## Code after prose -/

theorem blankKind_code (before : Option Kind) : blankKind before (some .code) = .code := by
  rcases before with _ | _ | _ <;> rfl

theorem eq_code_of_blankKind {after : Option Kind} (h : blankKind (some .prose) after = .code) :
    after = some .code := by
  rcases after with _ | _ | _
  · cases h
  · cases h
  · rfl

/-- The first line has the kind that a blank line before it would get, or it decides that kind. -/
theorem settle_head_kind {before : Option Kind} {cs : List Classified} {a : Settled}
    {rest : List Settled} (h : settle before cs = a :: rest) :
    a.kind = blankKind before (firstKind? cs) ∨ firstKind? cs = some a.kind := by
  cases cs with
  | nil => cases h
  | cons c cs =>
    rw [settle_cons, List.cons.injEq] at h
    rw [firstKind?, ← h.1]
    cases c.kind with
    | none => exact .inl rfl
    | some k => exact .inr rfl

theorem runs_cons_head (a : Settled) (rest : List Settled) :
    ∃ others later, runs (a :: rest) = (a :: others) :: later := by
  obtain ⟨b, bs, later, -, -, he⟩ | ⟨-, he⟩ := runs_cons a rest
  · exact ⟨b :: bs, later, he⟩
  · exact ⟨[], runs rest, he⟩

theorem cons_of_runs {xs : List Settled} {r : List Settled} {later : List (List Settled)}
    (h : runs xs = r :: later) : ∃ a others rest, r = a :: others ∧ xs = a :: rest := by
  cases xs with
  | nil => simp [runs] at h
  | cons a rest =>
    obtain ⟨others, later', he⟩ := runs_cons_head a rest
    rw [he] at h
    cases h
    exact ⟨a, others, rest, rfl, rfl⟩

/-- A blank line that is code after prose joins the run of code that follows it. -/
theorem blank_joins_code {c : Classified} {rest : List Classified} {r : List Settled}
    {later : List (List Settled)} (hc : c.kind = none)
    (hr : runs (settle (some .prose) (c :: rest)) = r :: later) (hk : runKind r = .code) :
    ∃ a s, r = a :: s ∧ runKind s = .code ∧ runs (settle (some .prose) rest) = s :: later := by
  rw [settle_cons, hc, Option.getD_none, Option.none_or] at hr
  obtain ⟨b, bs, others, hrest, hkind, he⟩ | ⟨hkind, he⟩ := runs_cons _ (settle (some .prose) rest)
  · rw [he, List.cons.injEq] at hr
    obtain ⟨rfl, rfl⟩ := hr
    exact ⟨_, b :: bs, rfl, hkind.symm.trans hk, hrest⟩
  · rw [he, List.cons.injEq] at hr
    obtain ⟨rfl, -⟩ := hr
    have hcode : blankKind (some .prose) (firstKind? rest) = .code := hk
    -- the next line with a kind is code, and the line after the blank one is code like it
    have hfirst := eq_code_of_blankKind hcode
    cases hs : settle (some .prose) rest with
    | nil =>
      cases rest with
      | nil => simp [firstKind?] at hfirst
      | cons c' rest => rw [settle_cons] at hs; cases hs
    | cons b bs =>
      obtain ⟨others, later', hb⟩ := runs_cons_head b bs
      have hne := hkind b others later' (hs ▸ hb)
      obtain h | h := settle_head_kind hs
      · exact absurd h.symm hne
      · rw [hfirst, Option.some.injEq] at h
        exact absurd (hcode.trans h) hne

theorem runs_settle_head {P : Line → Prop} {cs : List Classified}
    (hP : ∀ c ∈ cs, c.kind = some .code → P c.line) {r : List Settled}
    {later : List (List Settled)} (hr : runs (settle (some .prose) cs) = r :: later)
    (hk : runKind r = .code) : ∃ s ∈ r, P s.line := by
  induction cs generalizing r later with
  | nil => simp [runs] at hr
  | cons c rest ih =>
    cases hc : c.kind with
    | some k =>
      rw [settle_cons, hc, Option.getD_some] at hr
      obtain ⟨a, others, rest', rfl, he⟩ := cons_of_runs hr
      cases he
      refine ⟨_, List.mem_cons_self .., hP c (List.mem_cons_self ..) ?_⟩
      rw [hc, ← hk, runKind]
    | none =>
      obtain ⟨a, s, rfl, hs, hrest⟩ := blank_joins_code hc hr hk
      obtain ⟨b, hb, hPb⟩ := ih (fun d hd => hP d (List.mem_cons_of_mem c hd)) hrest hs
      exact ⟨b, List.mem_cons_of_mem a hb, hPb⟩

/-- The last line of prose before code is no blank line, so what follows is settled after prose. -/
theorem settle_of_code_after_prose {before : Option Kind} {c : Classified} {rest : List Classified}
    {a : Settled} {xs : List Settled} {r : List Settled} {later : List (List Settled)}
    (ha : settle before (c :: rest) = a :: xs) (hr : runs xs = r :: later)
    (hprose : a.kind = .prose) (hcode : runKind r = .code) :
    xs = settle (some .prose) rest := by
  cases hc : c.kind with
  | some k =>
    rw [settle_cons, hc, Option.getD_some, Option.some_or, List.cons.injEq] at ha
    obtain ⟨rfl, rfl⟩ := ha
    cases hprose
    rfl
  | none =>
    rw [settle_cons, hc, Option.getD_none, Option.none_or, List.cons.injEq] at ha
    obtain ⟨rfl, rfl⟩ := ha
    obtain ⟨b, others, rest', rfl, hs⟩ := cons_of_runs hr
    have hb : b.kind = .code := hcode
    have hblank : blankKind before (firstKind? rest) = .prose := hprose
    obtain h | h := settle_head_kind hs
    · rw [hblank, hb] at h
      cases h
    · rw [h, hb, blankKind_code] at hblank
      cases hblank

theorem runs_settle_chain {P : Line → Prop} (before : Option Kind) {cs : List Classified}
    (hP : ∀ c ∈ cs, c.kind = some .code → P c.line) :
    (runs (settle before cs)).IsChain
      fun r s => runKind r = .prose → runKind s = .code → ∃ a ∈ s, P a.line := by
  induction cs generalizing before with
  | nil => simp [runs]
  | cons c rest ih =>
    have hrest := fun d hd => hP d (List.mem_cons_of_mem c hd)
    obtain ⟨a, before', ha⟩ : ∃ a before', settle before (c :: rest) = a :: settle before' rest :=
      ⟨_, _, settle_cons before c rest⟩
    have ih' := ih before' hrest
    rw [ha]
    obtain ⟨b, bs, later, hr, hk, he⟩ | ⟨-, he⟩ := runs_cons a (settle before' rest)
    · rw [hr] at ih'
      rw [he]
      cases later with
      | nil => exact .singleton _
      | cons s later =>
        rw [List.isChain_cons_cons] at ih' ⊢
        exact ⟨fun hp => ih'.1 (hk.symm.trans hp), ih'.2⟩
    · rw [he]
      cases hr : runs (settle before' rest) with
      | nil => exact .singleton _
      | cons s later =>
        rw [List.isChain_cons_cons]
        refine ⟨fun hp hs => ?_, hr ▸ ih'⟩
        have hx := settle_of_code_after_prose ha hr hp hs
        exact runs_settle_head hrest (hx ▸ hr) hs

theorem number_contents (n : Nat) (fold : Bool) (rs : List (List Settled)) :
    (number n fold rs).map (fun p => (p.kind, p.lines)) =
      rs.map fun r => (runKind r, r.map (·.line)) := by
  induction rs generalizing n fold with
  | nil => rfl
  | cons r rs ih => rw [number, List.map_cons, ih, List.map_cons]

theorem number_chain {R : Kind × List Line → Kind × List Line → Prop} (n : Nat) (fold : Bool)
    {rs : List (List Settled)}
    (h : rs.IsChain fun r s => R (runKind r, r.map (·.line)) (runKind s, s.map (·.line))) :
    (number n fold rs).IsChain fun p q => R (p.kind, p.lines) (q.kind, q.lines) := by
  rw [← List.isChain_map (fun r => (runKind r, r.map (·.line))), ← number_contents n fold,
    List.isChain_map] at h
  exact h

theorem segment_code_after_prose (l : Language) (text : String) :
    (segment l text).IsChain fun p q =>
      p.kind = .prose → q.kind = .code → ∃ line ∈ q.lines, line.isFilled = true := by
  rw [segment_eq]
  refine number_chain 1 false (R := fun p q =>
    p.1 = .prose → q.1 = .code → ∃ line ∈ q.2, line.isFilled = true) ?_
  have h := runs_settle_chain none (P := fun line => line.isFilled = true)
    (fun c (hc : c ∈ classify l text) hk => classify_code_filled hc hk)
  refine h.imp fun r s hrs hr hs => ?_
  obtain ⟨a, ha, hfilled⟩ := hrs hr hs
  exact ⟨a.line, List.mem_map_of_mem ha, hfilled⟩

/-- Blank lines are settled by their nearest neighbours, and nothing else is changed; so code that
follows prose is never all blank. -/
theorem settled_by_neighbours :
    (∀ cs : List Classified, (settle none cs).length = cs.length ∧
      ∀ i c, cs[i]? = some c → ∃ s, (settle none cs)[i]? = some s ∧
        s.line = c.line ∧ s.fold = c.fold ∧ (∀ k, c.kind = some k → s.kind = k) ∧
        (c.kind = none → Between (kindBefore? cs i) (kindAfter? cs i) s.kind)) ∧
    ∀ (l : Language) (text : String), (segment l text).IsChain fun p q =>
      p.kind = .prose → q.kind = .code → ∃ line ∈ q.lines, line.isFilled = true := by
  refine ⟨fun cs => ⟨?_, fun i c hi => ?_⟩, segment_code_after_prose⟩
  · simpa using congrArg List.length (settle_lines none cs)
  · have hs := settle_getElem? none cs i
    rw [hi, Option.map_some, Option.or_none] at hs
    refine ⟨_, hs, rfl, rfl, ?_, ?_⟩
    · intro k hk
      simp [hk]
    · intro hk
      simpa [hk] using between_blankKind (kindBefore? cs i) (kindAfter? cs i)

theorem settled_before_code :
    ∃ s, (settle none [proseLine ['a'] 0 1, ⟨none, .plain [], false⟩, codeLine ['b']])[1]? = some s ∧
      s.line = .plain [] ∧ Between (some .prose) (some .code) s.kind := by
  obtain ⟨s, hs, hline, -, -, hkind⟩ := (settled_by_neighbours.1
    [proseLine ['a'] 0 1, ⟨none, .plain [], false⟩, codeLine ['b']]).2 1 _ rfl
  exact ⟨s, hs, hline, hkind rfl⟩

end Marginalia.Passage
