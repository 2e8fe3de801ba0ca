import Marginalia.Proofs.Passage.Position
import Marginalia.Proofs.Passage.Runs

/-! The passages of a file are a partition of its lines: put together again they give the file, they
are numbered without gaps from the first line to the last, and prose and code take turns. -/
namespace Marginalia.Passage
open Text
set_option autoImplicit false

/-! ## Lines put together again -/

theorem Line.whole_cut {cs : List Char} {start stop : Nat} (h : start ≤ stop) :
    (Line.cut cs start stop).whole = String.ofList cs := by
  have hc : cs.take start ++ (cs.take stop).drop start = cs.take stop := by
    have ht : cs.take start = (cs.take stop).take start := by
      rw [List.take_take, Nat.min_eq_left h]
    rw [ht, List.take_append_drop]
  rw [Line.whole, Line.cut, ← String.ofList_append, ← String.ofList_append, hc,
    List.take_append_drop]

theorem CutFrom.whole_eq {cs : List Char} {line : Line} (h : CutFrom cs line) :
    line.whole = String.ofList cs := by
  obtain ⟨start, stop, hle, -, rfl⟩ := h
  exact Line.whole_cut hle

theorem classifyFrom_whole (l : Language) (first : Bool) (state : State) (ls : List (List Char)) :
    (classifyFrom l first state ls).map (·.line.whole) = ls.map String.ofList := by
  induction ls generalizing first state with
  | nil => rfl
  | cons cs rest ih =>
    rw [classifyFrom, List.map_cons, List.map_cons, ih]
    rw [(classifyLine_cutFrom l first state cs).whole_eq]

/-! ## Numbered passages -/

theorem number_lines (n : Nat) (fold : Bool) (rs : List (List Settled)) :
    (number n fold rs).flatMap (·.lines) = rs.flatten.map (·.line) := by
  induction rs generalizing n fold with
  | nil => rfl
  | cons r rs ih => rw [number, List.flatMap_cons, ih, List.flatten_cons, List.map_append]

theorem number_places (n : Nat) (fold : Bool) (rs : List (List Settled)) :
    (number n fold rs).flatMap (fun p => List.range' p.start p.size) =
      List.range' n rs.flatten.length := by
  induction rs generalizing n fold with
  | nil => rfl
  | cons r rs ih =>
    have hsize : (r.map (·.line)).length = r.length := List.length_map _
    rw [number, List.flatMap_cons, ih, List.flatten_cons, List.length_append, Passage.size, hsize,
      List.range'_append_1]

theorem number_kinds (n : Nat) (fold : Bool) (rs : List (List Settled)) :
    (number n fold rs).map (·.kind) = rs.map runKind := by
  induction rs generalizing n fold with
  | nil => rfl
  | cons r rs ih => rw [number, List.map_cons, ih, List.map_cons]

theorem number_ne_nil {n : Nat} {fold : Bool} {rs : List (List Settled)}
    (hne : ∀ r ∈ rs, r ≠ []) : ∀ p ∈ number n fold rs, p.lines ≠ [] := by
  induction rs generalizing n fold with
  | nil => simp [number]
  | cons r rs ih =>
    rw [number]
    intro p hp
    cases hp with
    | head => simpa using hne r (List.mem_cons_self ..)
    | tail _ hp => exact ih (fun s hs => hne s (List.mem_cons_of_mem r hs)) p hp

theorem number_head (n : Nat) (fold : Bool) (rs : List (List Settled)) :
    ∀ p ∈ (number n fold rs).head?, p.start = n := by
  cases rs with
  | nil => simp [number]
  | cons r rs => simp [number]

theorem stop_add_one {p : Passage} {r : List Settled} (hp : p.lines = r.map (·.line))
    (hr : r ≠ []) : p.stop + 1 = p.start + r.length := by
  have hl : 0 < r.length := List.length_pos_of_ne_nil hr
  rw [stop, hp, List.length_map]
  omega

theorem number_consecutive (n : Nat) (fold : Bool) {rs : List (List Settled)}
    (hne : ∀ r ∈ rs, r ≠ []) :
    (number n fold rs).IsChain (fun p q => q.start = p.stop + 1) := by
  induction rs generalizing n fold with
  | nil => simp [number]
  | cons r rs ih =>
    have hr := hne r (List.mem_cons_self ..)
    have hrest := ih (n + r.length) (pendingAfter fold r) (fun s hs => hne s (List.mem_cons_of_mem r hs))
    have hhead := number_head (n + r.length) (pendingAfter fold r) rs
    rw [number]
    cases hq : number (n + r.length) (pendingAfter fold r) rs with
    | nil => exact .singleton _
    | cons q qs =>
      rw [hq] at hrest hhead
      rw [List.isChain_cons_cons]
      refine ⟨?_, hrest⟩
      rw [hhead q rfl]
      symm
      exact stop_add_one rfl hr

theorem number_last (n : Nat) (fold : Bool) {rs : List (List Settled)} (hne : ∀ r ∈ rs, r ≠ []) :
    ∀ p ∈ (number n fold rs).getLast?, p.stop + 1 = n + rs.flatten.length := by
  induction rs generalizing n fold with
  | nil => simp [number]
  | cons r rs ih =>
    have hr := hne r (List.mem_cons_self ..)
    have hrest := ih (n + r.length) (pendingAfter fold r) (fun s hs => hne s (List.mem_cons_of_mem r hs))
    intro p hp
    rw [number] at hp
    rw [List.flatten_cons, List.length_append]
    cases rs with
    | nil =>
      simp only [number, List.getLast?_singleton, Option.mem_some_iff] at hp
      subst hp
      rw [stop_add_one rfl hr]
      simp
    | cons s rs =>
      rw [number, List.getLast?_cons_cons, ← number] at hp
      have h := hrest p hp
      omega

/-! ## Passages of a file -/

theorem lines_eq_nil_iff {cs : List Char} : Text.lines cs = [] ↔ cs = [] := by
  constructor
  · intro h
    unfold Text.lines at h
    split at h
    · rfl
    · simp at h
    · simp at h
    · split at h <;> simp at h
  · rintro rfl
    rfl

theorem segment_lines (l : Language) (text : String) :
    ((segment l text).flatMap (·.lines)).map Line.whole =
      (Text.lines text.toList).map String.ofList := by
  have hw := classifyFrom_whole l true .outside (Text.lines text.toList)
  rw [segment_eq, number_lines, runs_flatten, settle_lines, List.map_map]
  exact hw

theorem segment_length (l : Language) (text : String) :
    (runs (settle none (classify l text))).flatten.length = (Text.lines text.toList).length := by
  have h := congrArg List.length (segment_lines l text)
  rwa [segment_eq, number_lines, List.length_map, List.length_map, List.length_map] at h

/-- The passages have the lines of the file, each once. -/
theorem segment_places (l : Language) (text : String) :
    (segment l text).flatMap (fun p => List.range' p.start p.size) =
      List.range' 1 (Text.lines text.toList).length := by
  rw [segment_eq, number_places, segment_length]

/-- A file is cut into passages without losing or repeating a character or a line. -/
theorem segment_partition (l : Language) (text : String) :
    ((segment l text).flatMap (·.lines)).map Line.whole =
      (Text.lines text.toList).map String.ofList ∧
    (∀ p ∈ segment l text, p.lines ≠ []) ∧
    (∀ p ∈ (segment l text).head?, p.start = 1) ∧
    (segment l text).IsChain (fun p q => q.start = p.stop + 1) ∧
    (segment l text).IsChain (fun p q => p.kind ≠ q.kind) ∧
    (∀ p ∈ (segment l text).getLast?, p.stop = (Text.lines text.toList).length) ∧
    (segment l text = [] ↔ text = "") := by
  have hne := runs_ne_nil (settle none (classify l text))
  have hl := segment_lines l text
  rw [segment_eq] at hl ⊢
  refine ⟨hl, number_ne_nil hne, number_head _ _ _, number_consecutive _ _ hne,
    ?_, ?_, ?_⟩
  · have hk := number_kinds 1 false (runs (settle none (classify l text)))
    have ha := runs_alternate (settle none (classify l text))
    rw [← List.isChain_map runKind (R := (· ≠ ·)), ← hk, List.isChain_map] at ha
    exact ha
  · intro p hp
    have h := number_last _ _ hne p hp
    rw [segment_length] at h
    omega
  · constructor
    · intro h
      rw [h, List.flatMap_nil, List.map_nil] at hl
      have hn := lines_eq_nil_iff.mp (List.map_eq_nil_iff.mp hl.symm)
      exact String.toList_eq_nil_iff.mp hn
    · rintro rfl
      rfl

end Marginalia.Passage
