import Marginalia.Passage.Classify
import Marginalia.Proofs.Text.Start

/-! Positions in a line: the places where comments close and where their text starts and stops lie
inside the line, and every line that is classified is cut at two such places, in order. -/
namespace Marginalia.Passage
open Text
set_option autoImplicit false

/-! ## Lengths of what is skipped -/

theorem leadingBlank_le (cs : List Char) : leadingBlank cs ≤ cs.length := by
  cases cs with
  | nil => simp [leadingBlank]
  | cons c cs =>
    simp only [leadingBlank, List.length_cons]
    split <;> omega

theorem trailingBlank_le (cs : List Char) : trailingBlank cs ≤ cs.length := by
  have h := leadingBlank_le cs.reverse
  rwa [List.length_reverse] at h

theorem middleRun_le (middle : List Char) (skip : Nat) (cs : List Char) :
    middleRun middle skip cs ≤ cs.length := by
  induction cs generalizing skip with
  | nil => simp [middleRun]
  | cons c cs ih =>
    rw [List.length_cons]
    cases skip with
    | succ skip =>
      rw [middleRun]
      exact Nat.succ_le_succ (ih skip)
    | zero =>
      rw [middleRun]
      split
      · exact Nat.succ_le_succ (ih _)
      · omega

theorem openingStart_le (b : BlockComment) (cs : List Char) : openingStart b cs ≤ cs.length := by
  have hr := middleRun_le (middleMark b) 0 cs
  have hb := leadingBlank_le (cs.drop (middleRun (middleMark b) 0 cs))
  rw [List.length_drop] at hb
  simp only [openingStart]
  omega

theorem interiorStart_le (b : BlockComment) (cs : List Char) : interiorStart b cs ≤ cs.length := by
  have ht := length_trimStart_le cs
  simp only [interiorStart]
  split
  next rest ha =>
    have hl := congrArg List.length (after?_eq_some_iff.mp ha)
    rw [List.length_append] at hl
    have hb := leadingBlank_le rest
    split <;> omega
  next => omega

/-! ## Where a comment closes -/

theorem findClose_ok {b : BlockComment} {nesting : Bool} {skip depth place : Nat} {cs : List Char}
    (h : findClose b nesting skip depth cs = .ok place) :
    place < cs.length ∧ startsWith b.closing.toList (cs.drop place) = true := by
  induction cs generalizing skip depth place with
  | nil => simp [findClose] at h
  | cons c cs ih =>
    -- every case but the marker itself moves one character on
    have hstep : ∀ skip depth, (findClose b nesting skip depth cs).map (· + 1) = .ok place →
        place < (c :: cs).length ∧ startsWith b.closing.toList ((c :: cs).drop place) = true := by
      intro skip depth hm
      cases hf : findClose b nesting skip depth cs with
      | error n => simp [hf, Except.map] at hm
      | ok n =>
        simp only [hf, Except.map, Except.ok.injEq] at hm
        subst hm
        obtain ⟨hlt, hs⟩ := ih hf
        exact ⟨by simp only [List.length_cons]; omega, hs⟩
    cases skip with
    | succ skip =>
      rw [findClose] at h
      exact hstep _ _ h
    | zero =>
      rw [findClose] at h
      split at h
      next hc =>
        split at h
        · cases h
          exact ⟨by simp, hc⟩
        · exact hstep _ _ h
      next =>
        split at h
        · exact hstep _ _ h
        · exact hstep _ _ h

/-! ## Markers at the start of a line -/

theorem length_of_lineMarker? {l : Language} {cs : List Char} {marker : String}
    (h : l.lineMarker? cs = some marker) : marker.length ≤ cs.length := by
  have hm := largest?_mem h
  rw [List.mem_filter] at hm
  simp only [Language.marks, Bool.and_eq_true] at hm
  exact length_le_of_startsWith hm.2.2

theorem length_of_blockOpening? {l : Language} {cs : List Char} {b : BlockComment}
    (h : l.blockOpening? cs = some b) : b.opening.length ≤ cs.length := by
  have hm := largest?_mem h
  rw [List.mem_filter] at hm
  simp only [Language.opens, Bool.and_eq_true] at hm
  cases ha : after? b.opening.toList cs with
  | none => simp [ha] at hm
  | some rest =>
    have hl := congrArg List.length (after?_eq_some_iff.mp ha)
    rw [List.length_append, String.length_toList] at hl
    omega

theorem length_of_bears {mark : Option String} {cs : List Char} (h : bears mark cs = true) :
    (mark.getD "").length ≤ cs.length := by
  cases mark with
  | none => simp [bears] at h
  | some mark =>
    simp only [bears, Option.any_some, Language.marks, Bool.and_eq_true] at h
    exact length_le_of_startsWith h.2

/-! ## Every line is cut in order -/

/-- The line is `cs`, cut at two places that follow each other and lie in it. -/
def CutFrom (cs : List Char) (line : Line) : Prop :=
  ∃ start stop, start ≤ stop ∧ stop ≤ cs.length ∧ line = .cut cs start stop

theorem plain_cutFrom (cs : List Char) : CutFrom cs (.plain cs) :=
  ⟨0, cs.length, Nat.zero_le _, le_rfl, by simp [Line.plain, Line.cut]⟩

theorem lineComment_cutFrom {l : Language} {cs : List Char} {indent : Nat} {marker : String}
    (hm : indent + marker.length ≤ cs.length) :
    CutFrom cs (lineComment l cs indent marker).line := by
  simp only [lineComment]
  split
  · exact plain_cutFrom cs
  · split
    next hf =>
      have hl := length_of_bears hf
      have hb := leadingBlank_le (cs.drop (indent + marker.length + (l.foldMark.getD "").length))
      rw [List.length_drop] at hl hb
      exact ⟨_, _, by omega, le_rfl, rfl⟩
    next =>
      have hb := leadingBlank_le (cs.drop (indent + marker.length))
      rw [List.length_drop] at hb
      exact ⟨_, _, by omega, le_rfl, rfl⟩

/-- The blank before a closing marker is taken from between the text's start and the marker. -/
theorem start_le_stop {cs : List Char} {start close : Nat} (hs : start ≤ close) :
    start ≤ close - trailingBlank ((cs.take close).drop start) := by
  have hb := trailingBlank_le ((cs.take close).drop start)
  rw [List.length_drop, List.length_take] at hb
  omega

theorem openComment_cutFrom {l : Language} {cs : List Char} {indent : Nat} {b : BlockComment}
    (ho : indent + b.opening.length ≤ cs.length) :
    CutFrom cs (openComment l cs indent b).1.line := by
  simp only [openComment]
  split
  next offset hf =>
    split
    · exact plain_cutFrom cs
    · have hc := (findClose_ok hf).1
      have hs := openingStart_le b
        ((cs.take (indent + b.opening.length + offset)).drop (indent + b.opening.length))
      rw [List.length_drop] at hc
      rw [List.length_drop, List.length_take] at hs
      exact ⟨_, _, start_le_stop (by omega), by omega, rfl⟩
  next depth hf =>
    have hs := openingStart_le b (cs.drop (indent + b.opening.length))
    rw [List.length_drop] at hs
    exact ⟨_, _, by omega, le_rfl, rfl⟩

theorem insideComment_cutFrom (l : Language) (cs : List Char) (b : BlockComment) (depth : Nat) :
    CutFrom cs (insideComment l cs b depth).1.line := by
  simp only [insideComment]
  split
  next close hf =>
    split
    · exact plain_cutFrom cs
    · have hc := (findClose_ok hf).1
      have hs := interiorStart_le b (cs.take close)
      rw [List.length_take] at hs
      exact ⟨_, _, start_le_stop (by omega), by omega, rfl⟩
  next depth' hf => exact ⟨_, _, interiorStart_le b cs, le_rfl, rfl⟩

theorem outsideComment_cutFrom (l : Language) (first : Bool) (cs : List Char) :
    CutFrom cs (outsideComment l first cs).1.line := by
  have ht := length_trimStart_le cs
  simp only [outsideComment]
  split
  · exact plain_cutFrom cs
  · split
    · exact plain_cutFrom cs
    · split
      next marker b hm hb =>
        have hlm := length_of_lineMarker? hm
        have hlb := length_of_blockOpening? hb
        split
        · exact lineComment_cutFrom (by omega)
        · exact openComment_cutFrom (by omega)
      next b hm hb =>
        have hlb := length_of_blockOpening? hb
        exact openComment_cutFrom (by omega)
      next marker hm hb =>
        have hlm := length_of_lineMarker? hm
        exact lineComment_cutFrom (by omega)
      next => exact plain_cutFrom cs

theorem classifyLine_cutFrom (l : Language) (first : Bool) (state : State) (cs : List Char) :
    CutFrom cs (classifyLine l first state cs).1.line := by
  simp only [classifyLine]
  split
  · exact plain_cutFrom cs
  · cases state with
    | outside => exact outsideComment_cutFrom l first cs
    | inside b depth => exact insideComment_cutFrom l cs b depth

end Marginalia.Passage
