import Marginalia.Proofs.Passage.Settling
import Mathlib.Data.List.Flatten

/-! Code is folded if and only if a fold comment introduces it. A fold comment is a line comment; it
stands in a passage of prose, and what it asks for reaches the next passage and no later one. -/
namespace Marginalia.Passage
open Text Marginalia.Language
set_option autoImplicit false

/-! ## Fold comments -/

/-- The line has a line marker that counts, and the body after it starts with the fold mark and not
with the ignore mark. -/
def AsksToFold (l : Language) (cs : List Char) : Prop :=
  ∃ marker body, Longest l (trimStart cs) (.line marker) ∧ trimStart cs = marker.toList ++ body ∧
    Bears l.foldMark body ∧ ¬ Bears l.ignoreMark body

/-- Line `i` of the file, counted from zero, is read outside block comments and asks to fold the code
that follows. -/
structure FoldComment (l : Language) (text : String) (i : Nat) : Prop where
  read : l.proseOnly = false
  state : stateBefore l text i = .outside
  line : ∃ cs, (Text.lines text.toList)[i]? = some cs ∧ isShebang (i == 0) cs = false ∧
    AsksToFold l cs

theorem lineComment_fold {l : Language} {cs : List Char} {indent : Nat} {marker : String} :
    (lineComment l cs indent marker).fold = true ↔
      Bears l.foldMark (cs.drop (indent + marker.length)) ∧
        ¬ Bears l.ignoreMark (cs.drop (indent + marker.length)) := by
  rw [← bears_iff, ← bears_iff]
  simp only [lineComment]
  split
  next hi => simp [codeLine, hi]
  next hi =>
    split
    next hf => simp [hi, hf]
    next hf => simp [proseLine, hf]

theorem openComment_fold (l : Language) (cs : List Char) (indent : Nat) (b : BlockComment) :
    (openComment l cs indent b).1.fold = false := by
  simp only [openComment]
  split
  · split <;> rfl
  · rfl

theorem insideComment_fold (l : Language) (cs : List Char) (b : BlockComment) (depth : Nat) :
    (insideComment l cs b depth).1.fold = false := by
  simp only [insideComment]
  split
  · split <;> rfl
  · rfl

theorem allBlank_of_asksToFold {l : Language} {cs : List Char} (h : AsksToFold l cs) :
    allBlank cs = false := by
  obtain ⟨marker, body, hlongest, hcs, -⟩ := h
  rw [← Bool.not_eq_true, ← trimStart_eq_nil_iff, hcs, List.append_eq_nil_iff,
    String.toList_eq_nil_iff]
  cases hlongest.fits with
  | line _ ne _ => exact fun he => ne he.1

/-- A line that is read by its marker asks to fold if and only if the marker is a line marker and
the right marks follow it. -/
theorem readBy_fold {l : Language} {cs : List Char} :
    (readBy l cs (l.marker? (trimStart cs))).1.fold = true ↔ AsksToFold l cs := by
  constructor
  · intro h
    cases hm : l.marker? (trimStart cs) with
    | none => simp [hm, readBy, codeLine] at h
    | some m =>
      cases m with
      | block b => simp [hm, readBy, openComment_fold] at h
      | line marker =>
        have hlongest := marker?_longest hm
        obtain ⟨body, hbody⟩ := hlongest.fits.prefix_text
        rw [hm, readBy, lineComment_fold, drop_indent, ← hbody, ← String.length_toList] at h
        simp only [Marker.text, List.drop_left] at h
        exact ⟨marker, body, hlongest, hbody.symm, h⟩
  · rintro ⟨marker, body, hlongest, hcs, hmarks⟩
    rw [marker?_eq_line_iff.mpr hlongest, readBy, lineComment_fold, drop_indent, hcs,
      ← String.length_toList, List.drop_left]
    exact hmarks

theorem classifyLine_fold {l : Language} {first : Bool} {state : State} {cs : List Char} :
    (classifyLine l first state cs).1.fold = true ↔
      l.proseOnly = false ∧ state = .outside ∧ isShebang first cs = false ∧ AsksToFold l cs := by
  unfold classifyLine
  split
  next hp => simp [hp]
  next hp =>
    rw [Bool.not_eq_true] at hp
    cases state with
    | inside b depth => simp [insideComment_fold]
    | outside =>
      dsimp only
      rw [outsideComment_eq]
      split
      next hb =>
        refine iff_of_false (by simp) ?_
        rintro ⟨-, -, -, hasks⟩
        rw [allBlank_of_asksToFold hasks] at hb
        cases hb
      next =>
        split
        next hs => simp [codeLine, hs]
        next hs => simp [readBy_fold, hp, hs]

theorem classify_fold_iff {l : Language} {text : String} {i : Nat} :
    (∃ c, (classify l text)[i]? = some c ∧ c.fold = true) ↔ FoldComment l text i := by
  rw [classify_getElem?]
  constructor
  · rintro ⟨c, hc, hfold⟩
    obtain ⟨cs, hcs, rfl⟩ := Option.map_eq_some_iff.mp hc
    obtain ⟨hread, hstate, hshebang, hasks⟩ := classifyLine_fold.mp hfold
    exact ⟨hread, hstate, cs, hcs, hshebang, hasks⟩
  · rintro ⟨hread, hstate, cs, hcs, hshebang, hasks⟩
    exact ⟨_, by rw [hcs, Option.map_some],
      classifyLine_fold.mpr ⟨hread, hstate, hshebang, hasks⟩⟩

theorem settle_fold_iff {l : Language} {text : String} {i : Nat} :
    (∃ s, (settle none (classify l text))[i]? = some s ∧ s.fold = true) ↔
      FoldComment l text i := by
  rw [← classify_fold_iff, settle_getElem?]
  cases (classify l text)[i]? <;> simp

theorem FoldComment.settled_prose {l : Language} {text : String} {i : Nat}
    (h : FoldComment l text i) {s : Settled}
    (hs : (settle none (classify l text))[i]? = some s) : s.kind = .prose := by
  obtain ⟨c, hc, hfold⟩ := classify_fold_iff.mpr h
  rw [settle_getElem?, hc, Option.map_some, Option.some.injEq] at hs
  rw [classify_getElem?, Option.map_eq_some_iff] at hc
  obtain ⟨cs, -, rfl⟩ := hc
  obtain hk | ⟨hk, -⟩ | ⟨hk, -⟩ := classifyLine_kind l (i == 0) (stateBefore l text i) cs
  · rw [← hs, hk]
    rfl
  · rw [hk] at hfold
    cases hfold
  · rw [hk] at hfold
    cases hfold

/-! ## From run to passage -/

theorem number_getElem? (n : Nat) (pending : Bool) (rs : List (List Settled)) (k : Nat) :
    (number n pending rs)[k]? = rs[k]?.map fun r =>
      { kind := runKind r
        start := n + (rs.take k).flatten.length
        lines := r.map (·.line)
        folded := runKind r = .code && (rs.take k).foldl pendingAfter pending } := by
  induction rs generalizing n pending k with
  | nil => rfl
  | cons r rs ih =>
    rw [number]
    cases k with
    | zero => simp
    | succ k =>
      rw [List.getElem?_cons_succ, ih, List.getElem?_cons_succ, List.take_succ_cons,
        List.flatten_cons, List.length_append, Nat.add_assoc, List.foldl_cons]

/-- Where only prose asks to fold, a fold is pending after a run if and only if the run itself asks:
prose finds nothing pending, since the code before it took what there was. -/
theorem pending_eq {rs : List (List Settled)} (halt : rs.IsChain fun r s => runKind r ≠ runKind s)
    (hprose : ∀ r ∈ rs, r.any (·.fold) = true → runKind r = .prose) {k : Nat} {r : List Settled}
    (hr : rs[k]? = some r) : (rs.take (k + 1)).foldl pendingAfter false = r.any (·.fold) := by
  induction k generalizing r with
  | zero =>
    rw [List.take_add_one, hr]
    simp [pendingAfter]
  | succ k ih =>
    obtain ⟨hk, hget⟩ := List.getElem?_eq_some_iff.mp hr
    have hq : rs[k]? = some rs[k] := List.getElem?_eq_getElem (Nat.lt_of_succ_lt hk)
    have hne := List.isChain_iff_getElem.mp halt k hk
    rw [List.take_add_one, hr, List.foldl_append, ih hq]
    show pendingAfter (rs[k].any (·.fold)) r = r.any (·.fold)
    rw [pendingAfter]
    cases hkind : runKind r with
    | code => simp
    | prose =>
      have hnone : rs[k].any (·.fold) = false := by
        rw [← Bool.not_eq_true]
        intro hfold
        rw [hget, hprose _ (List.getElem_mem _) hfold, hkind] at hne
        exact hne rfl
      rw [hnone]
      simp

theorem getElem?_flatten {rs : List (List Settled)} {k : Nat} {r : List Settled}
    (h : rs[k]? = some r) {m : Nat} (hm : m < r.length) :
    rs.flatten[(rs.take k).flatten.length + m]? = r[m]? := by
  obtain ⟨hk, hr⟩ := List.getElem?_eq_some_iff.mp h
  have hsplit : rs.flatten = (rs.take k).flatten ++ (r ++ (rs.drop (k + 1)).flatten) := by
    conv_lhs => rw [← List.take_append_drop k rs]
    rw [List.flatten_append, List.drop_eq_getElem_cons hk, List.flatten_cons, hr]
  rw [hsplit, List.getElem?_append_right (Nat.le_add_right _ _), Nat.add_sub_cancel_left,
    List.getElem?_append_left hm]

/-! ## Passages and their lines -/

/-- Line `i` of the file, counted from zero, is a line of the passage. -/
def Spans (p : Passage) (i : Nat) : Prop :=
  p.start ≤ i + 1 ∧ i + 1 ≤ p.stop

section
variable {l : Language} {text : String}

/-- A passage is a run of settled lines, and its lines stand in the file where the run does. -/
theorem segment_run {k : Nat} {p : Passage} (h : (segment l text)[k]? = some p) :
    ∃ r, (runs (settle none (classify l text)))[k]? = some r ∧ p.kind = runKind r ∧
      p.start = 1 + ((runs (settle none (classify l text))).take k).flatten.length ∧
      p.size = r.length ∧
      p.folded = (runKind r = .code &&
        ((runs (settle none (classify l text))).take k).foldl pendingAfter false) := by
  rw [segment_eq, number_getElem?, Option.map_eq_some_iff] at h
  obtain ⟨r, hr, rfl⟩ := h
  exact ⟨r, hr, rfl, rfl, List.length_map _, rfl⟩

/-- Only prose asks to fold. -/
theorem run_fold_prose {r : List Settled} (hr : r ∈ runs (settle none (classify l text)))
    (hfold : r.any (·.fold) = true) : runKind r = .prose := by
  obtain ⟨s, hs, hsf⟩ := List.any_eq_true.mp hfold
  have hmem : s ∈ settle none (classify l text) := by
    rw [← runs_flatten (settle none (classify l text))]
    exact List.mem_flatten_of_mem hr hs
  obtain ⟨i, hi⟩ := List.mem_iff_getElem?.mp hmem
  have hcomment := settle_fold_iff.mp ⟨s, hi, hsf⟩
  rw [← runs_uniform _ r hr s hs]
  exact hcomment.settled_prose hi

theorem spans_iff {p : Passage} {i : Nat} :
    p.Spans i ↔ ∃ m, m < p.size ∧ i + 1 = p.start + m := by
  rw [Spans, stop, size]
  constructor
  · rintro ⟨hle, hge⟩
    exact ⟨i + 1 - p.start, by omega, by omega⟩
  · rintro ⟨m, hm, he⟩
    omega

theorem run_fold_iff {k : Nat} {p : Passage} (h : (segment l text)[k]? = some p) {r : List Settled}
    (hr : (runs (settle none (classify l text)))[k]? = some r) :
    r.any (·.fold) = true ↔ ∃ i, p.Spans i ∧ FoldComment l text i := by
  obtain ⟨r', hr', -, hstart, hsize, -⟩ := segment_run h
  obtain rfl : r = r' := Option.some.inj (hr.symm.trans hr')
  have hplace : ∀ m < r.length,
      (settle none (classify l text))[p.start - 1 + m]? = r[m]? := by
    intro m hm
    have hget := getElem?_flatten hr hm
    rwa [runs_flatten, ← Nat.add_sub_cancel_left (n := 1) (m := List.length _), ← hstart] at hget
  rw [List.any_eq_true]
  constructor
  · rintro ⟨s, hs, hfold⟩
    obtain ⟨m, hm⟩ := List.mem_iff_getElem?.mp hs
    have hlt := (List.getElem?_eq_some_iff.mp hm).1
    refine ⟨p.start - 1 + m, spans_iff.mpr ⟨m, by omega, by omega⟩, ?_⟩
    exact settle_fold_iff.mp ⟨s, (hplace m hlt).trans hm, hfold⟩
  · rintro ⟨i, hspans, hcomment⟩
    obtain ⟨m, hm, hi⟩ := spans_iff.mp hspans
    obtain ⟨s, hs, hfold⟩ := settle_fold_iff.mpr hcomment
    have hi' : i = p.start - 1 + m := by omega
    rw [hi', hplace m (by omega)] at hs
    exact ⟨s, List.mem_of_getElem? hs, hfold⟩

theorem folded_iff {k : Nat} {p : Passage} (h : (segment l text)[k]? = some p) :
    p.folded = true ↔ p.kind = .code ∧ 0 < k ∧ ∃ q i, (segment l text)[k - 1]? = some q ∧
      q.Spans i ∧ FoldComment l text i := by
  obtain ⟨r, hr, hkind, -, -, hfolded⟩ := segment_run h
  rw [hfolded, hkind, Bool.and_eq_true, decide_eq_true_eq]
  refine and_congr_right fun _ => ?_
  cases k with
  | zero => simp
  | succ k =>
    have hlt : k < (segment l text).length :=
      Nat.lt_of_succ_lt (List.getElem?_eq_some_iff.mp h).1
    have hq := List.getElem?_eq_getElem hlt
    obtain ⟨r', hr', -⟩ := segment_run hq
    rw [pending_eq (runs_alternate _) (fun _ => run_fold_prose) hr', Nat.add_sub_cancel,
      run_fold_iff hq hr']
    constructor
    · rintro ⟨i, hi⟩
      exact ⟨Nat.succ_pos k, _, i, hq, hi⟩
    · rintro ⟨-, q, i, hq', hi⟩
      rw [hq, Option.some.injEq] at hq'
      subst hq'
      exact ⟨i, hi⟩

theorem spans_lt {j k : Nat} (hjk : j < k) {p q : Passage} (hp : (segment l text)[j]? = some p)
    (hq : (segment l text)[k]? = some q) {i i' : Nat} (hi : p.Spans i) (hi' : q.Spans i') :
    i < i' := by
  obtain ⟨r, hr, -, hpstart, hpsize, -⟩ := segment_run hp
  obtain ⟨-, -, -, hqstart, -, -⟩ := segment_run hq
  obtain ⟨m, hm, him⟩ := spans_iff.mp hi
  obtain ⟨hj, hget⟩ := List.getElem?_eq_some_iff.mp hr
  -- the lines of the later passage come after all those of the runs up to the earlier one
  have hle := ((List.take_sublist_take_left (l := runs (settle none (classify l text)))
    (Nat.succ_le_of_lt hjk)).flatten).length_le
  rw [Nat.succ_eq_add_one, List.take_add_one, hr, List.flatten_append, List.length_append] at hle
  simp only [Option.toList_some, List.flatten_singleton] at hle
  have hstart := hi'.1
  omega

theorem FoldComment.exists_passage {i : Nat} (h : FoldComment l text i) :
    ∃ (k : Nat) (q : Passage), (segment l text)[k]? = some q ∧ q.Spans i ∧ q.kind = .prose := by
  obtain ⟨cs, hcs, -⟩ := h.line
  have hlt := (List.getElem?_eq_some_iff.mp hcs).1
  have hmem : i + 1 ∈ (segment l text).flatMap (fun p => List.range' p.start p.size) := by
    rw [segment_places, List.mem_range'_1]
    omega
  obtain ⟨q, hq, hi⟩ := List.mem_flatMap.mp hmem
  obtain ⟨k, hk⟩ := List.mem_iff_getElem?.mp hq
  rw [List.mem_range'_1] at hi
  have hm : i + 1 - q.start < q.lines.length := by
    rw [size] at hi
    omega
  obtain ⟨s, hs, hkind, -⟩ := segment_line hq (List.getElem?_eq_getElem hm)
  have hplace : q.start - 1 + (i + 1 - q.start) = i := by
    obtain ⟨-, -, -, hstart, -⟩ := segment_run hk
    omega
  rw [hplace] at hs
  refine ⟨k, q, hk, spans_iff.mpr ⟨i + 1 - q.start, by omega, by omega⟩, ?_⟩
  exact hkind.symm.trans (h.settled_prose hs)

theorem kind_succ_ne {k : Nat} {p q : Passage} (hp : (segment l text)[k]? = some p)
    (hq : (segment l text)[k + 1]? = some q) : p.kind ≠ q.kind := by
  obtain ⟨r, hr, hpk, -⟩ := segment_run hp
  obtain ⟨r', hr', hqk, -⟩ := segment_run hq
  obtain ⟨hk, hget⟩ := List.getElem?_eq_some_iff.mp hr
  obtain ⟨hk', hget'⟩ := List.getElem?_eq_some_iff.mp hr'
  have hne := List.isChain_iff_getElem.mp (runs_alternate (settle none (classify l text))) k hk'
  rw [hget, hget'] at hne
  rwa [hpk, hqk]

end

/-- A passage is folded if and only if it is code and a fold comment stands in the passage before
it. So prose is never folded, and a fold comment folds the passage after its own: which of the later
ones are folded is decided by fold comments further down. -/
theorem folded_iff_introduced (l : Language) (text : String) :
    (∀ k p, (segment l text)[k]? = some p →
      (p.folded = true ↔ p.kind = .code ∧ 0 < k ∧
        ∃ q i, (segment l text)[k - 1]? = some q ∧ q.Spans i ∧ FoldComment l text i)) ∧
    (∀ p ∈ segment l text, p.kind = .prose → p.folded = false) ∧
    ∀ i, FoldComment l text i → ∃ (k : Nat) (q : Passage), (segment l text)[k]? = some q ∧
      q.Spans i ∧ q.kind = .prose ∧
      (∀ p, (segment l text)[k + 1]? = some p → p.kind = .code ∧ p.folded = true) ∧
      ∀ j p, k + 1 < j → (segment l text)[j]? = some p → (p.folded = true ↔ p.kind = .code ∧
        ∃ q' i', (segment l text)[j - 1]? = some q' ∧ q'.Spans i' ∧ i < i' ∧
          FoldComment l text i') := by
  refine ⟨fun k p => folded_iff, ?_, ?_⟩
  · intro p hp hprose
    obtain ⟨k, hk⟩ := List.mem_iff_getElem?.mp hp
    rw [← Bool.not_eq_true, folded_iff hk, hprose]
    simp
  · intro i hi
    obtain ⟨k, q, hq, hspans, hprose⟩ := hi.exists_passage
    refine ⟨k, q, hq, hspans, hprose, ?_, ?_⟩
    · intro p hp
      have hcode : p.kind = .code := by
        have hne := kind_succ_ne hq hp
        cases hk : p.kind with
        | code => rfl
        | prose => exact absurd (hprose.trans hk.symm) hne
      exact ⟨hcode, (folded_iff hp).mpr ⟨hcode, Nat.succ_pos k, q, i, hq, hspans, hi⟩⟩
    · intro j p hj hp
      rw [folded_iff hp]
      refine and_congr_right fun _ => ⟨?_, ?_⟩
      · rintro ⟨-, q', i', hq', hspans', hi'⟩
        exact ⟨q', i', hq', hspans', spans_lt (by omega) hq hq' hspans hspans', hi'⟩
      · rintro ⟨q', i', hq', hspans', -, hi'⟩
        exact ⟨by omega, q', i', hq', hspans', hi'⟩

/-- A language whose line comments may bear marks. -/
def slashes : Language :=
  { name := "Slashes", lineComments := ["//"], ignoreMark := some "!", foldMark := some "^" }

/-- Of two passages of code the first follows a fold comment. The ignored comment is code itself. -/
theorem folded_apart_from_ignored :
    ∃ p r, (segment slashes "//^ a\n\nx\n//!^ b\n// c\ny")[1]? = some p ∧
      (segment slashes "//^ a\n\nx\n//!^ b\n// c\ny")[3]? = some r ∧
      p.size = 3 ∧ p.folded = true ∧ r.kind = .code ∧ r.folded = false ∧
      ∃ q i, (segment slashes "//^ a\n\nx\n//!^ b\n// c\ny")[0]? = some q ∧ q.Spans i ∧
        FoldComment slashes "//^ a\n\nx\n//!^ b\n// c\ny" i := by
  have hfolded := (folded_iff_introduced slashes "//^ a\n\nx\n//!^ b\n// c\ny").1 1 _ rfl
  obtain ⟨-, -, hcomment⟩ := hfolded.mp rfl
  exact ⟨_, _, rfl, rfl, rfl, rfl, rfl, rfl, hcomment⟩

end Marginalia.Passage
