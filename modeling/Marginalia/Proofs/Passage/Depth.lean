import Marginalia.Proofs.Passage.Scan

/-! How deep the comment is in which the reader of a file stands: at least one opening, and no more than
one where openings are not counted. -/
namespace Marginalia.Passage
open Text Marginalia.Language
set_option autoImplicit false

theorem ne_empty_of_not_startsWith {mark : String} {cs : List Char}
    (h : ¬ startsWith mark.toList cs = true) : mark ≠ "" := by
  rintro rfl
  exact h (by simp [startsWith, after?])

theorem error_of_map {found : Except Nat Nat} {f : Nat → Nat} {depth : Nat}
    (h : found.map f = .error depth) : found = .error depth := by
  cases found with
  | ok place => cases h
  | error left => simpa [Except.map] using h

/-- The marker that would end the comment is never passed over, so the depth stays positive. Where
openings are not counted, or the closing marker is empty, it does not grow. -/
theorem findClose_error {b : BlockComment} {nesting : Bool} {skip depth left : Nat} {cs : List Char}
    (h : findClose b nesting skip depth cs = .error left) (hdepth : 1 ≤ depth) :
    1 ≤ left ∧ (nesting = false ∨ b.closing = "" → depth = 1 → left = 1) := by
  induction cs generalizing skip depth with
  | nil =>
    rw [findClose] at h
    cases h
    exact ⟨hdepth, fun _ hone => hone⟩
  | cons c cs ih =>
    cases skip with
    | succ skip =>
      rw [findClose] at h
      exact ih (error_of_map h) hdepth
    | zero =>
      rw [findClose] at h
      split at h
      next =>
        split at h
        next => cases h
        next hdeep =>
          rw [Bool.or_eq_true, not_or, decide_eq_true_eq, decide_eq_true_eq] at hdeep
          exact ⟨(ih (error_of_map h) (by omega)).1, fun _ hone => absurd hone.le hdeep.1⟩
      next hs =>
        have hne := ne_empty_of_not_startsWith hs
        split at h
        next ho =>
          have hnesting := (Bool.and_eq_true_iff.mp ho).1
          exact ⟨(ih (error_of_map h) (by omega)).1, fun hflat => by simp [hnesting, hne] at hflat⟩
        next => exact ih (error_of_map h) hdepth

/-- Of the comment that the reader is in, the opening is not empty. The reader is at least one deep,
and no deeper if openings are not counted or the closing marker is empty. -/
def Sound (l : Language) : State → Prop
  | .outside => True
  | .inside b depth =>
    b.opening ≠ "" ∧ 1 ≤ depth ∧ (nests l b = false ∨ b.closing = "" → depth = 1)

theorem sound_outside (l : Language) : Sound l .outside :=
  trivial

/-! ## One line -/

theorem openComment_sound (l : Language) (cs : List Char) (indent : Nat) {b : BlockComment}
    (hne : b.opening ≠ "") : Sound l (openComment l cs indent b).2 := by
  cases hf : findClose b (nests l b) 0 1 (cs.drop (indent + b.opening.length)) with
  | ok place =>
    rw [openComment_ok hf]
    exact sound_outside l
  | error left =>
    rw [(openComment_error hf).2]
    obtain ⟨hleft, hone⟩ := findClose_error hf le_rfl
    exact ⟨hne, hleft, fun hflat => hone hflat rfl⟩

theorem insideComment_sound {l : Language} {b : BlockComment} {depth : Nat}
    (h : Sound l (.inside b depth)) (cs : List Char) : Sound l (insideComment l cs b depth).2 := by
  obtain ⟨hne, hdepth, hflat⟩ := h
  cases hf : findClose b (nests l b) 0 depth cs with
  | ok close =>
    rw [insideComment_ok hf]
    exact sound_outside l
  | error left =>
    rw [(insideComment_error hf).2]
    obtain ⟨hleft, hone⟩ := findClose_error hf hdepth
    exact ⟨hne, hleft, fun h => hone h (hflat h)⟩

theorem outsideComment_sound (l : Language) (first : Bool) (cs : List Char) :
    Sound l (outsideComment l first cs).2 := by
  rw [outsideComment_eq]
  split
  · exact sound_outside l
  · split
    · exact sound_outside l
    · cases hm : l.marker? (trimStart cs) with
      | none => exact sound_outside l
      | some m =>
        cases (marker?_longest hm).fits with
        | line => exact sound_outside l
        | block _ hne => exact openComment_sound l cs _ hne

theorem classifyLine_sound (l : Language) (first : Bool) {state : State} (h : Sound l state)
    (cs : List Char) : Sound l (classifyLine l first state cs).2 := by
  unfold classifyLine
  split
  · exact h
  · cases state with
    | outside => exact outsideComment_sound l first cs
    | inside b depth => exact insideComment_sound h cs

/-! ## All lines -/

theorem stateAfter_sound (l : Language) (first : Bool) {state : State} (h : Sound l state)
    (lines : List (List Char)) : Sound l (stateAfter l first state lines) := by
  induction lines generalizing first state with
  | nil => exact h
  | cons cs lines ih => exact ih false (classifyLine_sound l first h cs)

theorem stateBefore_sound (l : Language) (text : String) (i : Nat) :
    Sound l (stateBefore l text i) :=
  stateAfter_sound l true (sound_outside l) _

end Marginalia.Passage
