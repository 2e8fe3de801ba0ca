import Marginalia.Text.Basic
import Mathlib.Data.List.Basic
import Mathlib.Order.Lattice

/-! Lines and the text they are joined to: where a line of the text starts, and on which line an offset
into the text lies. -/
namespace Marginalia.Text
set_option autoImplicit false

theorem not_mem_of_mem_lines {cs line : List Char} (h : line ∈ lines cs) : '\n' ∉ line := by
  fun_induction lines cs generalizing line with
  | case1 => simp at h
  | case2 cs ih =>
    rcases List.mem_cons.mp h with rfl | h
    · simp
    · exact ih h
  | case3 cs ih =>
    rcases List.mem_cons.mp h with rfl | h
    · simp
    · exact ih h
  | case4 c cs hc _ hl ih =>
    obtain rfl := List.mem_singleton.mp h
    simpa [eq_comm] using hc
  | case5 c cs hc _ l ls hl ih =>
    rw [hl] at ih
    rcases List.mem_cons.mp h with rfl | h
    · rw [List.mem_cons, not_or]
      exact ⟨fun he => hc he.symm, ih (List.mem_cons_self ..)⟩
    · exact ih (List.mem_cons_of_mem _ h)

theorem intercalate_cons (sep line : List Char) (rest : List (List Char)) :
    sep.intercalate (line :: rest) = line ++ rest.flatMap (sep ++ ·) := by
  induction rest generalizing line with
  | nil => rw [List.intercalate_singleton, List.flatMap_nil, List.append_nil]
  | cons next rest ih =>
    rw [List.intercalate_cons_cons, ih, List.flatMap_cons, List.append_assoc, List.append_assoc]

theorem of_mem_intercalate {sep : List Char} {parts : List (List Char)} {c : Char}
    (h : c ∈ sep.intercalate parts) : c ∈ sep ∨ ∃ part ∈ parts, c ∈ part := by
  cases parts with
  | nil => exact absurd h List.not_mem_nil
  | cons first rest =>
    rw [intercalate_cons, List.mem_append, List.mem_flatMap] at h
    obtain hc | ⟨part, hpart, hc⟩ := h
    · exact .inr ⟨first, List.mem_cons_self .., hc⟩
    · exact (List.mem_append.mp hc).imp_right fun hc => ⟨part, List.mem_cons_of_mem first hpart, hc⟩

/-- What stands before one of the joined parts, the part, and what stands after it. -/
theorem intercalate_append_cons (sep : List Char) (front : List (List Char)) (line : List Char)
    (rest : List (List Char)) :
    sep.intercalate (front ++ line :: rest) =
      front.flatMap (· ++ sep) ++ (line ++ rest.flatMap (sep ++ ·)) := by
  induction front with
  | nil => exact intercalate_cons sep line rest
  | cons first front ih =>
    obtain ⟨next, more, hmore⟩ := List.exists_cons_of_ne_nil (l := front ++ line :: rest) (by simp)
    rw [List.cons_append, hmore, List.intercalate_cons_cons, ← hmore, ih, List.flatMap_cons]
    simp only [List.append_assoc]

/-- The lines, each with the line feed that ends it. -/
def ended (lines : List (List Char)) : List Char :=
  lines.flatMap (· ++ ['\n'])

/-- What stands before an offset into joined lines: whole lines, as many as there are line feeds, and
a part of the next line. -/
theorem exists_line_at {lines : List (List Char)} (hne : lines ≠ []) (h : ∀ line ∈ lines, '\n' ∉ line)
    (offset : Nat) :
    ∃ i line k, lines[i]? = some line ∧ k ≤ line.length ∧
      (['\n'].intercalate lines).take offset = ended (lines.take i) ++ line.take k ∧
      ((['\n'].intercalate lines).take offset).count '\n' = i := by
  induction lines generalizing offset with
  | nil => exact absurd rfl hne
  | cons first rest ih =>
    have hfirst := h first (List.mem_cons_self ..)
    have hnone : ∀ k, (first.take k).count '\n' = 0 := fun k =>
      List.count_eq_zero.mpr fun hm => hfirst (List.mem_of_mem_take hm)
    cases rest with
    | nil =>
      refine ⟨0, first, min offset first.length, rfl, min_le_right .., ?_, ?_⟩
      · rw [List.intercalate_singleton, List.take_zero, ended, List.flatMap_nil, List.nil_append,
          ← List.take_take, List.take_length]
      · rw [List.intercalate_singleton, hnone]
    | cons second rest =>
      rw [List.intercalate_cons_cons]
      by_cases hle : offset ≤ first.length
      · refine ⟨0, first, offset, rfl, hle, ?_, ?_⟩
        · rw [List.append_assoc, List.take_append_of_le_length hle]
          rfl
        · rw [List.append_assoc, List.take_append_of_le_length hle, hnone]
      · obtain ⟨i, line, k, hi, hk, htake, hcount⟩ := ih (by simp)
          (fun line hm => h line (List.mem_cons_of_mem _ hm)) (offset - (first.length + 1))
        have hcut : offset = (first ++ ['\n']).length + (offset - (first.length + 1)) := by
          rw [List.length_append, List.length_singleton]
          omega
        rw [hcut, List.take_length_add_append]
        refine ⟨i + 1, line, k, hi, hk, ?_, ?_⟩
        · rw [htake, List.take_succ_cons, ended, ended, List.flatMap_cons, ← List.append_assoc]
        · have hself := hnone first.length
          rw [List.take_length] at hself
          rw [List.count_append, hcount, List.count_append, hself, List.count_singleton_self]
          omega

end Marginalia.Text
