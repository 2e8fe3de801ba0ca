import Marginalia.Proofs.Passage.Settling

/-! The end of a comment is found line by line where it is found in the lines joined together. The
reader of a file leaves the comment there, and a comment that never ends is prose to the end of the
file. -/
namespace Marginalia.Passage
open Text Marginalia.Language
set_option autoImplicit false

/-! ## Lines one by one -/

/-- Looks for the end of a comment line by line, each line from the depth at which the one before
ended: the number of the line and the place in it, or how deep the comment still is. -/
def scanLines (b : BlockComment) (nesting : Bool) :
    (depth : Nat) → List (List Char) → Except Nat (Nat × Nat)
  | depth, [] => .error depth
  | depth, cs :: rest =>
    match findClose b nesting 0 depth cs with
    | .ok offset => .ok (0, offset)
    | .error depth => (scanLines b nesting depth rest).map fun p => (p.1 + 1, p.2)

/-- The place in the joined lines that is the given place in a line. -/
def placeIn : (lines : List (List Char)) → (line offset : Nat) → Nat
  | cs :: rest, line + 1, offset => placeIn rest line offset + (cs.length + 1)
  | _, _, offset => offset

/-- A place in one of the lines, or at its end. -/
def IsPlace (lines : List (List Char)) (line offset : Nat) : Prop :=
  ∃ cs, lines[line]? = some cs ∧ offset ≤ cs.length

theorem placeIn_inj {lines : List (List Char)} {i j m n : Nat} (hi : IsPlace lines i m)
    (hj : IsPlace lines j n) (h : placeIn lines i m = placeIn lines j n) : i = j ∧ m = n := by
  induction lines generalizing i j with
  | nil => simp [IsPlace] at hi
  | cons cs rest ih =>
    obtain ⟨a, ha, hm⟩ := hi
    obtain ⟨c, hc, hn⟩ := hj
    cases i with
    | zero =>
      cases j with
      | zero => exact ⟨rfl, h⟩
      | succ j =>
        rw [List.getElem?_cons_zero, Option.some.injEq] at ha
        subst ha
        simp only [placeIn] at h
        omega
    | succ i =>
      cases j with
      | zero =>
        rw [List.getElem?_cons_zero, Option.some.injEq] at hc
        subst hc
        simp only [placeIn] at h
        omega
      | succ j =>
        simp only [placeIn, Nat.add_right_cancel_iff] at h
        obtain ⟨rfl, rfl⟩ := ih ⟨a, by simpa using ha, hm⟩ ⟨c, by simpa using hc, hn⟩ h
        exact ⟨rfl, rfl⟩

theorem scanLines_cons_ok {b : BlockComment} {nesting : Bool} {depth line offset : Nat}
    {cs : List Char} {rest : List (List Char)}
    (h : scanLines b nesting depth (cs :: rest) = .ok (line, offset)) :
    (findClose b nesting 0 depth cs = .ok offset ∧ line = 0) ∨
    ∃ left later, findClose b nesting 0 depth cs = .error left ∧
      scanLines b nesting left rest = .ok (later, offset) ∧ line = later + 1 := by
  rw [scanLines] at h
  split at h
  next o hf =>
    cases h
    exact .inl ⟨hf, rfl⟩
  next left hf =>
    cases hs : scanLines b nesting left rest with
    | error e => simp [hs, Except.map] at h
    | ok p =>
      simp only [hs, Except.map, Except.ok.injEq, Prod.mk.injEq] at h
      obtain ⟨rfl, rfl⟩ := h
      exact .inr ⟨left, p.1, hf, hs, rfl⟩

theorem scanLines_cons_error {b : BlockComment} {nesting : Bool} {depth d : Nat} {cs : List Char}
    {rest : List (List Char)} (h : scanLines b nesting depth (cs :: rest) = .error d) :
    ∃ left, findClose b nesting 0 depth cs = .error left ∧
      scanLines b nesting left rest = .error d := by
  rw [scanLines] at h
  split at h
  next => cases h
  next left hf =>
    refine ⟨left, hf, ?_⟩
    cases hs : scanLines b nesting left rest with
    | ok p => simp [hs, Except.map] at h
    | error e =>
      simp only [hs, Except.map, Except.error.injEq] at h
      rw [h]

theorem isPlace_of_scanLines {b : BlockComment} {nesting : Bool} {depth line offset : Nat}
    {lines : List (List Char)} (h : scanLines b nesting depth lines = .ok (line, offset)) :
    IsPlace lines line offset := by
  induction lines generalizing depth line with
  | nil => simp [scanLines] at h
  | cons cs rest ih =>
    obtain ⟨hf, rfl⟩ | ⟨left, later, -, hrest, rfl⟩ := scanLines_cons_ok h
    · exact ⟨cs, rfl, (findClose_ok hf).1.le⟩
    · obtain ⟨a, ha, ho⟩ := ih hrest
      exact ⟨a, by simpa using ha, ho⟩

/-! ## One line and the rest of the text -/

/-- A marker without a line feed does not reach over one. -/
theorem startsWith_line {mark : List Char} (h : '\n' ∉ mark) (cs rest : List Char) :
    startsWith mark (cs ++ '\n' :: rest) = startsWith mark cs := by
  rw [Bool.eq_iff_iff, startsWith_iff, startsWith_iff]
  constructor
  · intro hp
    by_cases hle : mark.length ≤ cs.length
    · exact List.prefix_of_prefix_length_le hp (List.prefix_append ..) hle
    · have hline : cs ++ ['\n'] <+: cs ++ '\n' :: rest := by simp
      have hlt : (cs ++ ['\n']).length ≤ mark.length := by
        rw [List.length_append, List.length_singleton]
        omega
      exact absurd ((List.prefix_of_prefix_length_le hline hp hlt).subset (by simp)) h
  · exact fun hp => hp.trans (List.prefix_append ..)

theorem map_tryCatch (r : Except Nat Nat) (f : Nat → Except Nat Nat) (n : Nat) :
    ((r.tryCatch fun d => (f d).map (· + n)).map (· + 1)) =
      (r.map (· + 1)).tryCatch fun d => (f d).map (· + (n + 1)) := by
  cases r with
  | ok o => rfl
  | error d =>
    cases hf : f d <;> simp [Except.tryCatch, Except.map, hf, Nat.add_assoc]

theorem startsWith_nil {mark : String} (h : mark ≠ "") : startsWith mark.toList [] = false := by
  rw [← Bool.not_eq_true, startsWith_iff, List.prefix_nil, String.toList_eq_nil_iff]
  exact h

/-- A line is read as it stands; where the comment does not end on it, the rest of the text is read
from the depth that is left. No marker reaches over the end of the line, so nothing is skipped
there. -/
theorem findClose_line {b : BlockComment} {nesting : Bool} (hc : '\n' ∉ b.closing.toList)
    (ho : '\n' ∉ b.opening.toList) (hcne : b.closing ≠ "") (hone : b.opening ≠ "")
    {skip depth : Nat} {cs : List Char} (hskip : skip ≤ cs.length) (rest : List Char) :
    findClose b nesting skip depth (cs ++ '\n' :: rest) =
      (findClose b nesting skip depth cs).tryCatch
        fun d => (findClose b nesting 0 d rest).map (· + (cs.length + 1)) := by
  induction cs generalizing skip depth with
  | nil =>
    have hnc := (startsWith_line hc [] rest).trans (startsWith_nil hcne)
    have hno := (startsWith_line ho [] rest).trans (startsWith_nil hone)
    rw [List.nil_append] at hnc hno
    rw [List.length_nil, Nat.le_zero] at hskip
    subst hskip
    rw [List.nil_append, findClose, findClose, hnc, hno, Bool.and_false]
    rfl
  | cons c cs ih =>
    have hstep : ∀ skip depth, skip ≤ cs.length →
        (findClose b nesting skip depth (cs ++ '\n' :: rest)).map (· + 1) =
          ((findClose b nesting skip depth cs).map (· + 1)).tryCatch
            fun d => (findClose b nesting 0 d rest).map (· + ((c :: cs).length + 1)) := by
      intro skip depth hle
      rw [ih hle, map_tryCatch, List.length_cons]
    cases skip with
    | succ skip =>
      rw [List.cons_append, findClose, findClose]
      exact hstep skip depth (Nat.le_of_succ_le_succ hskip)
    | zero =>
      have hclosing := startsWith_line hc (c :: cs) rest
      have hopening := startsWith_line ho (c :: cs) rest
      rw [List.cons_append] at hclosing hopening
      rw [List.cons_append, findClose, findClose, hclosing, hopening]
      split
      next hs =>
        have hl := length_le_of_startsWith hs
        rw [String.length_toList, List.length_cons] at hl
        split
        · rfl
        · exact hstep _ _ (by omega)
      next =>
        split
        next hs =>
          rw [Bool.and_eq_true] at hs
          have hl := length_le_of_startsWith hs.2
          rw [String.length_toList, List.length_cons] at hl
          exact hstep _ _ (by omega)
        next => exact hstep _ _ (Nat.zero_le _)

theorem findClose_intercalate {b : BlockComment} {nesting : Bool} (hc : '\n' ∉ b.closing.toList)
    (ho : '\n' ∉ b.opening.toList) (hcne : b.closing ≠ "") (hone : b.opening ≠ "") (depth : Nat)
    (lines : List (List Char)) :
    findClose b nesting 0 depth (['\n'].intercalate lines) =
      (scanLines b nesting depth lines).map fun p => placeIn lines p.1 p.2 := by
  induction lines generalizing depth with
  | nil => rfl
  | cons cs rest ih =>
    cases rest with
    | nil =>
      rw [List.intercalate_singleton, scanLines]
      cases findClose b nesting 0 depth cs <;> rfl
    | cons cs' rest =>
      rw [List.intercalate_cons_cons, List.append_assoc, List.singleton_append,
        findClose_line hc ho hcne hone (Nat.zero_le _), scanLines]
      cases findClose b nesting 0 depth cs with
      | ok o => rfl
      | error d =>
        rw [Except.tryCatch, ih]
        dsimp only
        cases scanLines b nesting d (cs' :: rest) <;> rfl

/-! ## Comments that do not nest -/

/-- The mark stands at the place and nowhere before it. -/
def FirstAt (mark text : List Char) (place : Nat) : Prop :=
  mark <+: text.drop place ∧ ∀ before < place, ¬ mark <+: text.drop before

theorem firstAt_succ {mark : List Char} {c : Char} {cs : List Char} {place : Nat}
    (h : ¬ mark <+: c :: cs) : FirstAt mark (c :: cs) (place + 1) ↔ FirstAt mark cs place := by
  constructor
  · rintro ⟨hat, hbefore⟩
    exact ⟨hat, fun q hq => hbefore (q + 1) (Nat.succ_lt_succ hq)⟩
  · rintro ⟨hat, hbefore⟩
    refine ⟨hat, fun q hq => ?_⟩
    cases q with
    | zero => exact h
    | succ q => exact hbefore q (Nat.lt_of_succ_lt_succ hq)

theorem findClose_first {b : BlockComment} (hne : b.closing ≠ "") {text : List Char} {place : Nat} :
    findClose b false 0 1 text = .ok place ↔ FirstAt b.closing.toList text place := by
  induction text generalizing place with
  | nil =>
    have hne' : ¬ b.closing.toList <+: [] := by
      rw [List.prefix_nil, String.toList_eq_nil_iff]
      exact hne
    simp [findClose, FirstAt, hne']
  | cons c cs ih =>
    rw [findClose, Bool.false_and]
    by_cases hs : startsWith b.closing.toList (c :: cs) = true
    · have hp := startsWith_iff.mp hs
      simp only [hs, if_true, le_refl, decide_true, Bool.true_or, Except.ok.injEq]
      constructor
      · rintro rfl
        exact ⟨hp, fun q hq => absurd hq (Nat.not_lt_zero q)⟩
      · rintro ⟨-, hbefore⟩
        cases place with
        | zero => rfl
        | succ place => exact absurd hp (hbefore 0 (Nat.succ_pos place))
    · have hp := fun h => hs (startsWith_iff.mpr h)
      simp only [hs, if_false, Bool.false_eq_true]
      cases place with
      | zero =>
        constructor
        · intro h
          cases hf : findClose b false 0 1 cs <;> simp [hf, Except.map] at h
        · rintro ⟨hat, -⟩
          exact absurd hat hp
      | succ place =>
        rw [firstAt_succ hp, ← ih]
        cases findClose b false 0 1 cs <;> simp [Except.map]

theorem nests_eq_false {l : Language} {b : BlockComment}
    (h : l.nested = false ∨ b.opening = b.closing) : nests l b = false := by
  obtain h | h := h <;> simp [nests, h]

/-! ## Comments of a file -/

/-- Line `i` of the file stands outside comments and opens one, which goes on with `body`. -/
structure OpensAt (l : Language) (text : String) (i : Nat) (b : BlockComment) (body : List Char) :
    Prop where
  read : l.proseOnly = false
  state : stateBefore l text i = .outside
  line : ∃ cs, (Text.lines text.toList)[i]? = some cs ∧ isShebang (i == 0) cs = false ∧
    l.marker? (trimStart cs) = some (.block b) ∧ trimStart cs = b.opening.toList ++ body

theorem openComment_error {l : Language} {cs : List Char} {indent : Nat} {b : BlockComment}
    {d : Nat} (h : findClose b (nests l b) 0 1 (cs.drop (indent + b.opening.length)) = .error d) :
    (openComment l cs indent b).1.kind = some .prose ∧
      (openComment l cs indent b).2 = .inside b d := by
  simp [openComment, h, proseLine]

theorem insideComment_error {l : Language} {cs : List Char} {b : BlockComment} {depth d : Nat}
    (h : findClose b (nests l b) 0 depth cs = .error d) :
    (insideComment l cs b depth).1.kind = some .prose ∧
      (insideComment l cs b depth).2 = .inside b d := by
  simp [insideComment, h, proseLine]

theorem OpensAt.classifyLine_eq {l : Language} {text : String} {i : Nat} {b : BlockComment}
    {body : List Char} (h : OpensAt l text i b body) :
    ∃ cs, (Text.lines text.toList)[i]? = some cs ∧
      classifyLine l (i == 0) (stateBefore l text i) cs =
        openComment l cs (cs.length - (trimStart cs).length) b ∧
      cs.drop (cs.length - (trimStart cs).length + b.opening.length) = body := by
  obtain ⟨cs, hcs, hsb, hm, ht⟩ := h.line
  have hne : allBlank cs = false := by
    rw [← Bool.not_eq_true, ← trimStart_eq_nil_iff]
    intro hnil
    have hfits := (marker?_longest hm).fits
    cases hfits with
    | block _ ne start _ =>
      rw [hnil, eq_comm, List.append_eq_nil_iff, String.toList_eq_nil_iff] at start
      exact ne start.1
  refine ⟨cs, hcs, ?_, ?_⟩
  · simp [classifyLine, h.read, h.state, outsideComment_eq, hne, hsb, hm, readBy]
  · rw [drop_indent, ht, ← String.length_toList, List.drop_left]

theorem openComment_ok {l : Language} {cs : List Char} {indent : Nat} {b : BlockComment}
    {offset : Nat}
    (h : findClose b (nests l b) 0 1 (cs.drop (indent + b.opening.length)) = .ok offset) :
    (openComment l cs indent b).2 = .outside := by
  simp only [openComment, h]
  split <;> rfl

theorem insideComment_ok {l : Language} {cs : List Char} {b : BlockComment} {depth close : Nat}
    (h : findClose b (nests l b) 0 depth cs = .ok close) :
    (insideComment l cs b depth).2 = .outside := by
  simp only [insideComment, h]
  split <;> rfl

theorem classifyLine_inside {l : Language} (hl : l.proseOnly = false) (first : Bool)
    (b : BlockComment) (depth : Nat) (cs : List Char) :
    classifyLine l first (.inside b depth) cs = insideComment l cs b depth := by
  simp [classifyLine, hl]

/-- The reader leaves a comment behind the line on which the scan ends it. -/
theorem stateAfter_inside_iff {l : Language} (hl : l.proseOnly = false) {b : BlockComment}
    {depth line offset : Nat} {lines : List (List Char)}
    (h : scanLines b (nests l b) depth lines = .ok (line, offset)) (first : Bool) {k : Nat}
    (hk : k ≤ line) :
    stateAfter l first (.inside b depth) (lines.take (k + 1)) = .outside ↔ k = line := by
  induction lines generalizing depth line first k with
  | nil => simp [scanLines] at h
  | cons cs rest ih =>
    rw [List.take_succ_cons, stateAfter, classifyLine_inside hl]
    obtain ⟨hf, rfl⟩ | ⟨left, line', hf, hrest, rfl⟩ := scanLines_cons_ok h
    · obtain rfl := Nat.le_zero.mp hk
      simp [stateAfter, insideComment_ok hf]
    · rw [(insideComment_error hf).2]
      cases k with
      | zero => simp [stateAfter]
      | succ k =>
        rw [ih hrest false (Nat.le_of_succ_le_succ hk), Nat.add_right_cancel_iff]

theorem OpensAt.leaves_iff {l : Language} {text : String} {i : Nat} {b : BlockComment}
    {body : List Char} (h : OpensAt l text i b body) {line offset k : Nat}
    (hs : scanLines b (nests l b) 1 (body :: (Text.lines text.toList).drop (i + 1)) =
      .ok (line, offset)) (hk : k ≤ line) :
    stateBefore l text (i + k + 1) = .outside ↔ k = line := by
  obtain ⟨cs, hcs, hline, rfl⟩ := h.classifyLine_eq
  rw [stateBefore_add hcs, hline]
  obtain ⟨hf, rfl⟩ | ⟨left, line', hf, hrest, rfl⟩ := scanLines_cons_ok hs
  · obtain rfl := Nat.le_zero.mp hk
    simp [stateAfter, openComment_ok hf]
  · rw [(openComment_error hf).2]
    cases k with
    | zero => simp [stateAfter]
    | succ k =>
      rw [stateAfter_inside_iff h.read hrest false (Nat.le_of_succ_le_succ hk),
        Nat.add_right_cancel_iff]

theorem classifyFrom_inside {l : Language} (hl : l.proseOnly = false) {b : BlockComment}
    {depth d : Nat} {lines : List (List Char)}
    (h : scanLines b (nests l b) depth lines = .error d) (first : Bool) :
    ∀ c ∈ classifyFrom l first (.inside b depth) lines, c.kind = some .prose := by
  induction lines generalizing depth first with
  | nil => simp [classifyFrom]
  | cons cs rest ih =>
    obtain ⟨left, hf, hrest⟩ := scanLines_cons_error h
    obtain ⟨hkind, hstate⟩ := insideComment_error hf
    rw [classifyFrom_cons, classifyLine_inside hl, hstate, List.forall_mem_cons]
    exact ⟨hkind, ih hrest false⟩

theorem OpensAt.rest_prose {l : Language} {text : String} {i : Nat} {b : BlockComment}
    {body : List Char} (h : OpensAt l text i b body) {d : Nat}
    (hd : scanLines b (nests l b) 1 (body :: (Text.lines text.toList).drop (i + 1)) = .error d) :
    ∀ c ∈ (classify l text).drop i, c.kind = some .prose := by
  obtain ⟨cs, hcs, hline, hbody⟩ := h.classifyLine_eq
  obtain ⟨hlt, hget⟩ := List.getElem?_eq_some_iff.mp hcs
  obtain ⟨left, hf, hrest⟩ := scanLines_cons_error hd
  rw [← hbody] at hf
  obtain ⟨hkind, hstate⟩ := openComment_error hf
  rw [classify_drop, List.drop_eq_getElem_cons hlt, hget, classifyFrom_cons, hline, hstate,
    List.forall_mem_cons]
  exact ⟨hkind, classifyFrom_inside h.read hrest false⟩

/-! ## The last run -/

theorem runs_eq_singleton {k : Kind} {xs : List Settled} (hne : xs ≠ [])
    (hk : ∀ s ∈ xs, s.kind = k) : runs xs = [xs] := by
  induction xs with
  | nil => exact absurd rfl hne
  | cons a rest ih =>
    cases rest with
    | nil => rfl
    | cons b rest =>
      have hr := ih (List.cons_ne_nil b rest) fun s hs => hk s (List.mem_cons_of_mem a hs)
      have hab : a.kind = b.kind := by
        rw [hk a (List.mem_cons_self ..), hk b (List.mem_cons_of_mem a (List.mem_cons_self ..))]
      rw [runs, hr]
      dsimp only
      rw [if_pos hab]

theorem runs_last {k : Kind} (front : List Settled) {back : List Settled} (hne : back ≠ [])
    (hk : ∀ s ∈ back, s.kind = k) :
    ∃ rs r, runs (front ++ back) = rs ++ [r] ∧ runKind r = k ∧ back.length ≤ r.length := by
  induction front with
  | nil =>
    obtain ⟨s, back, rfl⟩ := List.exists_cons_of_ne_nil hne
    exact ⟨[], s :: back, runs_eq_singleton hne hk, hk s (List.mem_cons_self ..), le_rfl⟩
  | cons a front ih =>
    obtain ⟨rs, r, hr, hrk, hle⟩ := ih
    obtain ⟨b, bs, others, hb, hab, he⟩ | ⟨-, he⟩ := runs_cons a (front ++ back)
    · rw [hr] at hb
      cases rs with
      | nil =>
        rw [List.nil_append, List.cons.injEq] at hb
        obtain ⟨rfl, rfl⟩ := hb
        exact ⟨[], a :: b :: bs, he, hab.trans hrk, hle.trans (Nat.le_succ _)⟩
      | cons r' rs =>
        rw [List.cons_append, List.cons.injEq] at hb
        obtain ⟨rfl, rfl⟩ := hb
        exact ⟨(a :: b :: bs) :: rs, r, he, hrk, hle⟩
    · exact ⟨[a] :: rs, r, by rw [List.cons_append, he, hr, List.cons_append], hrk, hle⟩

theorem settle_drop_prose {cs : List Classified} {i : Nat}
    (h : ∀ c ∈ cs.drop i, c.kind = some .prose) :
    ∀ s ∈ (settle none cs).drop i, s.kind = .prose := by
  intro s hs
  obtain ⟨j, hj⟩ := List.mem_iff_getElem?.mp hs
  rw [List.getElem?_drop, settle_getElem?, Option.map_eq_some_iff] at hj
  obtain ⟨c, hc, rfl⟩ := hj
  rw [← List.getElem?_drop] at hc
  simp [h c (List.mem_of_getElem? hc)]

/-- Prose up to the end of the file is all in the last passage. -/
theorem segment_last {l : Language} {text : String} {i : Nat}
    (hi : i < (Text.lines text.toList).length)
    (h : ∀ c ∈ (classify l text).drop i, c.kind = some .prose) :
    ∃ ps p, segment l text = ps ++ [p] ∧ p.kind = .prose ∧ p.start ≤ i + 1 ∧
      p.stop = (Text.lines text.toList).length := by
  have hlen := segment_length l text
  rw [runs_flatten] at hlen
  have hne : (settle none (classify l text)).drop i ≠ [] := by
    rw [Ne, List.drop_eq_nil_iff]
    omega
  obtain ⟨rs, r, hr, hrk, hle⟩ := runs_last ((settle none (classify l text)).take i) hne
    (settle_drop_prose h)
  rw [List.take_append_drop] at hr
  rw [List.length_drop, hlen] at hle
  have hc := number_contents 1 false (runs (settle none (classify l text)))
  rw [hr, List.map_append, List.map_eq_append_iff] at hc
  obtain ⟨ps, last, hnum, -, hlast⟩ := hc
  rw [List.map_singleton, List.map_eq_singleton_iff] at hlast
  obtain ⟨p, rfl, hp⟩ := hlast
  rw [Prod.mk.injEq] at hp
  have hseg : segment l text = ps ++ [p] := by rw [segment_eq, hr, hnum]
  have hstop := number_last 1 false (runs_ne_nil (settle none (classify l text))) p
    (by rw [hr, hnum]; simp)
  rw [segment_length] at hstop
  have hsize : p.lines.length = r.length := by rw [hp.2, List.length_map]
  have hstop' : p.stop = p.start + p.lines.length - 1 := rfl
  exact ⟨ps, p, hseg, hp.1.trans hrk, by omega, by omega⟩

/-- Scanning a comment line by line finds its end where scanning the joined lines does, which is the
first closing marker if comments do not nest. The reader of a file leaves the comment on that line,
and a comment without an end is prose up to the end of the file. -/
theorem scan_by_line (l : Language) (b : BlockComment) (hone : b.opening ≠ "")
    (hcne : b.closing ≠ "") (ho : '\n' ∉ b.opening.toList) (hc : '\n' ∉ b.closing.toList) :
    (∀ lines : List (List Char),
      (∀ line offset, IsPlace lines line offset →
        (scanLines b (nests l b) 1 lines = .ok (line, offset) ↔
          findClose b (nests l b) 0 1 (['\n'].intercalate lines) =
            .ok (placeIn lines line offset))) ∧
      (∀ depth, scanLines b (nests l b) 1 lines = .error depth ↔
        findClose b (nests l b) 0 1 (['\n'].intercalate lines) = .error depth) ∧
      (l.nested = false ∨ b.opening = b.closing → ∀ place,
        findClose b (nests l b) 0 1 (['\n'].intercalate lines) = .ok place ↔
          FirstAt b.closing.toList (['\n'].intercalate lines) place)) ∧
    ∀ text i body, OpensAt l text i b body →
      (∀ line offset k, scanLines b (nests l b) 1 (body :: (Text.lines text.toList).drop (i + 1)) =
        .ok (line, offset) → k ≤ line → (stateBefore l text (i + k + 1) = .outside ↔ k = line)) ∧
      ((∀ place, findClose b (nests l b) 0 1
          (['\n'].intercalate (body :: (Text.lines text.toList).drop (i + 1))) ≠ .ok place) →
        ∃ ps p, segment l text = ps ++ [p] ∧ p.kind = .prose ∧ p.start ≤ i + 1 ∧
          p.stop = (Text.lines text.toList).length) := by
  have hwhole : ∀ lines, findClose b (nests l b) 0 1 (['\n'].intercalate lines) =
      (scanLines b (nests l b) 1 lines).map fun p => placeIn lines p.1 p.2 :=
    findClose_intercalate hc ho hcne hone 1
  refine ⟨fun lines => ⟨fun line offset hplace => ?_, fun depth => ?_, fun hflat place => ?_⟩, ?_⟩
  · rw [hwhole]
    constructor
    · intro h
      rw [h, Except.map]
    · intro h
      cases hs : scanLines b (nests l b) 1 lines with
      | error d => simp [hs, Except.map] at h
      | ok p =>
        simp only [hs, Except.map, Except.ok.injEq] at h
        obtain ⟨hl, hoff⟩ := placeIn_inj (isPlace_of_scanLines hs) hplace h
        rw [← hl, ← hoff]
  · rw [hwhole]
    cases scanLines b (nests l b) 1 lines <;> simp [Except.map]
  · rw [nests_eq_false hflat]
    exact findClose_first hcne
  · intro text i body hopens
    refine ⟨fun line offset k hs hk => hopens.leaves_iff hs hk, fun hnever => ?_⟩
    obtain ⟨cs, hcs, -, -⟩ := hopens.classifyLine_eq
    refine segment_last (List.getElem?_eq_some_iff.mp hcs).1 ?_
    cases hs : scanLines b (nests l b) 1 (body :: (Text.lines text.toList).drop (i + 1)) with
    | error d => exact hopens.rest_prose hs
    | ok p =>
      have hend := hwhole (body :: (Text.lines text.toList).drop (i + 1))
      rw [hs, Except.map] at hend
      exact absurd hend (hnever _)

theorem scan_by_line_nested :
    (scanLines ⟨"/*", "*/", none⟩ true 1 ["a /* b".toList, "*/ c */".toList] = .ok (1, 5) ↔
      findClose ⟨"/*", "*/", none⟩ true 0 1 "a /* b\n*/ c */".toList = .ok 12) ∧
    ∃ ps p, segment { name := "N", blockComments := [⟨"/*", "*/", none⟩], nested := true }
        "x\n/* a /*\n*/ b" = ps ++ [p] ∧ p.kind = .prose ∧ p.start ≤ 2 ∧ p.stop = 3 := by
  have h := scan_by_line { name := "N", blockComments := [⟨"/*", "*/", none⟩], nested := true }
    ⟨"/*", "*/", none⟩ (by decide) (by decide) (by decide) (by decide)
  refine ⟨(h.1 ["a /* b".toList, "*/ c */".toList]).1 1 5 ⟨_, rfl, by decide⟩, ?_⟩
  refine (h.2 "x\n/* a /*\n*/ b" 1 " a /*".toList ⟨rfl, rfl, _, rfl, rfl, rfl, rfl⟩).2 ?_
  have hdepth : findClose ⟨"/*", "*/", none⟩ true 0 1 " a /*\n*/ b".toList = .error 1 := rfl
  intro place hplace
  cases hdepth.symm.trans hplace

end Marginalia.Passage
