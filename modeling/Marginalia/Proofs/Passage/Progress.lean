import Marginalia.Proofs.Passage.Partition

/-! Where the reader of a file stands before each of its lines, and which line of the file each line
of a passage is. -/
namespace Marginalia.Passage
open Text
set_option autoImplicit false

/-! ## The reader from line to line -/

/-- Where the reader stands after the lines. -/
def stateAfter (l : Language) : (first : Bool) → State → List (List Char) → State
  | _, state, [] => state
  | first, state, cs :: rest => stateAfter l false (classifyLine l first state cs).2 rest

/-- Where the reader of a file stands before line `i`, counted from zero. -/
def stateBefore (l : Language) (text : String) (i : Nat) : State :=
  stateAfter l true .outside ((Text.lines text.toList).take i)

theorem classifyFrom_cons (l : Language) (first : Bool) (state : State) (cs : List Char)
    (rest : List (List Char)) :
    classifyFrom l first state (cs :: rest) = (classifyLine l first state cs).1 ::
      classifyFrom l false (classifyLine l first state cs).2 rest := rfl

theorem classifyFrom_drop (l : Language) (first : Bool) (state : State) (ls : List (List Char))
    (i : Nat) :
    (classifyFrom l first state ls).drop i =
      classifyFrom l (first && i == 0) (stateAfter l first state (ls.take i)) (ls.drop i) := by
  induction ls generalizing first state i with
  | nil => simp [classifyFrom]
  | cons cs rest ih =>
    cases i with
    | zero => simp [stateAfter]
    | succ i => simp [classifyFrom_cons, stateAfter, ih]

/-- What is read from line `i` on depends on the lines before it only by the state. -/
theorem classify_drop (l : Language) (text : String) (i : Nat) :
    (classify l text).drop i =
      classifyFrom l (i == 0) (stateBefore l text i) ((Text.lines text.toList).drop i) :=
  classifyFrom_drop l true .outside _ i

theorem classify_getElem? (l : Language) (text : String) (i : Nat) :
    (classify l text)[i]? = (Text.lines text.toList)[i]?.map
      fun cs => (classifyLine l (i == 0) (stateBefore l text i) cs).1 := by
  rw [← List.head?_drop, classify_drop, ← List.head?_drop]
  cases (Text.lines text.toList).drop i <;> rfl

theorem stateAfter_take_add (l : Language) (first : Bool) (state : State) (ls : List (List Char))
    (i k : Nat) :
    stateAfter l first state (ls.take (i + k)) =
      stateAfter l (first && i == 0) (stateAfter l first state (ls.take i)) ((ls.drop i).take k) := by
  induction ls generalizing first state i with
  | nil => simp [stateAfter]
  | cons cs rest ih =>
    cases i with
    | zero => simp [stateAfter]
    | succ i =>
      rw [Nat.add_right_comm, List.take_succ_cons, List.take_succ_cons, List.drop_succ_cons,
        stateAfter, stateAfter, ih]
      simp

theorem stateBefore_add {l : Language} {text : String} {i : Nat} {cs : List Char}
    (h : (Text.lines text.toList)[i]? = some cs) (k : Nat) :
    stateBefore l text (i + k + 1) =
      stateAfter l false (classifyLine l (i == 0) (stateBefore l text i) cs).2
        (((Text.lines text.toList).drop (i + 1)).take k) := by
  obtain ⟨hlt, hget⟩ := List.getElem?_eq_some_iff.mp h
  have hadd := stateAfter_take_add l true .outside (Text.lines text.toList) i (k + 1)
  rw [List.drop_eq_getElem_cons hlt, hget, List.take_succ_cons, stateAfter] at hadd
  exact hadd

theorem stateBefore_succ {l : Language} {text : String} {i : Nat} {cs : List Char}
    (h : (Text.lines text.toList)[i]? = some cs) :
    stateBefore l text (i + 1) = (classifyLine l (i == 0) (stateBefore l text i) cs).2 :=
  stateBefore_add h 0

/-! ## Lines of passages -/

theorem number_line {n : Nat} {fold : Bool} {rs : List (List Settled)}
    (hu : ∀ r ∈ rs, ∀ s ∈ r, s.kind = runKind r) {p : Passage} (hp : p ∈ number n fold rs)
    {k : Nat} {line : Line} (hk : p.lines[k]? = some line) :
    n ≤ p.start ∧ ∃ s, rs.flatten[p.start - n + k]? = some s ∧ s.kind = p.kind ∧
      s.line = line := by
  induction rs generalizing n fold with
  | nil => simp [number] at hp
  | cons r rs ih =>
    rw [number] at hp
    cases hp with
    | head =>
      simp only [List.getElem?_map, Option.map_eq_some_iff] at hk
      obtain ⟨s, hs, hl⟩ := hk
      refine ⟨le_rfl, s, ?_, hu r (List.mem_cons_self ..) s (List.mem_of_getElem? hs), hl⟩
      have hlt := (List.getElem?_eq_some_iff.mp hs).1
      rw [List.flatten_cons, Nat.sub_self, Nat.zero_add, List.getElem?_append_left hlt, hs]
    | tail _ hp =>
      obtain ⟨hle, s, hs, hkind, hl⟩ := ih (fun q hq => hu q (List.mem_cons_of_mem r hq)) hp
      refine ⟨by omega, s, ?_, hkind, hl⟩
      rw [List.flatten_cons, List.getElem?_append_right (by omega), ← hs]
      congr 1
      omega

/-- Line `k` of a passage is line `p.start - 1 + k` of the file, counted from zero. -/
theorem segment_line {l : Language} {text : String} {p : Passage} (hp : p ∈ segment l text)
    {k : Nat} {line : Line} (hk : p.lines[k]? = some line) :
    ∃ s, (settle none (classify l text))[p.start - 1 + k]? = some s ∧ s.kind = p.kind ∧
      s.line = line := by
  rw [segment_eq] at hp
  have h := (number_line (runs_uniform _) hp hk).2
  rwa [runs_flatten] at h

end Marginalia.Passage
