import Marginalia.Text.Basic
import Mathlib.Data.List.Basic

/-! Pieces of a text between separators: taking a text apart and putting it together again undo each
other, as long as no piece holds the separator. -/
namespace Marginalia.Text
set_option autoImplicit false

/-! ## Taking apart -/

section Pieces

variable {p : Char → Bool} {c : Char} {cs : List Char}

theorem splitOnP_cons_of_sep (hc : p c = true) (cs : List Char) :
    (c :: cs).splitOnP p = [] :: cs.splitOnP p := by
  rw [List.splitOnP_cons_eq_if_modifyHead, if_pos hc]

theorem splitOnP_cons_of_not {piece : List Char} {pieces : List (List Char)} (hc : p c = false)
    (h : cs.splitOnP p = piece :: pieces) : (c :: cs).splitOnP p = (c :: piece) :: pieces := by
  rw [List.splitOnP_cons_eq_if_modifyHead, hc, if_neg (by decide), h, List.modifyHead_cons]

/-- What stands in a piece comes from the text and is no separator. -/
theorem of_mem_splitOnP {piece : List Char} (hp : piece ∈ cs.splitOnP p) (hc : c ∈ piece) :
    c ∈ cs ∧ p c = false := by
  induction cs generalizing piece with
  | nil =>
    rw [List.splitOnP_nil, List.mem_singleton] at hp
    rw [hp] at hc
    exact absurd hc List.not_mem_nil
  | cons x cs ih =>
    have hlater : c ∈ cs ∧ p c = false → c ∈ x :: cs ∧ p c = false :=
      And.imp_left (List.mem_cons_of_mem x)
    cases hx : p x with
    | true =>
      rw [splitOnP_cons_of_sep hx] at hp
      obtain rfl | hp := List.mem_cons.mp hp
      · exact absurd hc List.not_mem_nil
      · exact hlater (ih hp hc)
    | false =>
      obtain ⟨first, rest, hs⟩ := List.exists_cons_of_ne_nil (List.splitOnP_ne_nil p cs)
      rw [splitOnP_cons_of_not hx hs] at hp
      rw [hs] at ih
      obtain rfl | hp := List.mem_cons.mp hp
      · obtain rfl | hc := List.mem_cons.mp hc
        · exact ⟨List.mem_cons_self .., hx⟩
        · exact hlater (ih (List.mem_cons_self ..) hc)
      · exact hlater (ih (List.mem_cons_of_mem first hp) hc)

end Pieces

theorem split_eq_splitOn (sep : Char) (cs : List Char) : split sep cs = cs.splitOn sep := by
  induction cs with
  | nil => rfl
  | cons c cs ih =>
    rw [split, List.splitOn_cons_eq_if_modifyHead, ih]
    by_cases hc : c = sep
    · rw [if_pos hc, if_pos (by simpa using hc)]
    · obtain ⟨piece, pieces, hs⟩ := List.exists_cons_of_ne_nil (List.splitOn_ne_nil sep cs)
      rw [if_neg hc, if_neg (by simpa using hc), hs, List.modifyHead_cons]

theorem split_ne_nil (sep : Char) (cs : List Char) : split sep cs ≠ [] := by
  rw [split_eq_splitOn]
  exact List.splitOn_ne_nil sep cs

theorem split_self (sep : Char) (cs : List Char) : split sep (sep :: cs) = [] :: split sep cs := by
  rw [split, if_pos rfl]

theorem split_cons_of_ne {sep c : Char} {cs piece : List Char} {pieces : List (List Char)}
    (hc : c ≠ sep) (h : split sep cs = piece :: pieces) :
    split sep (c :: cs) = (c :: piece) :: pieces := by
  rw [split, if_neg hc, h]

theorem not_mem_of_mem_split {sep : Char} {cs : List Char} :
    ∀ piece ∈ split sep cs, sep ∉ piece := by
  intro piece hp hsep
  rw [split_eq_splitOn, List.splitOn_eq_splitOnP] at hp
  have hne := (of_mem_splitOnP hp hsep).2
  exact absurd hne (by simp)

theorem mem_of_mem_split {sep c : Char} {cs piece : List Char} (hp : piece ∈ split sep cs)
    (hc : c ∈ piece) : c ∈ cs := by
  rw [split_eq_splitOn, List.splitOn_eq_splitOnP] at hp
  exact (of_mem_splitOnP hp hc).1

theorem split_of_not_mem {sep : Char} {cs : List Char} (h : sep ∉ cs) : split sep cs = [cs] := by
  rw [split_eq_splitOn, List.splitOn_eq_singleton h]

theorem split_append_sep (sep : Char) (front back : List Char) :
    split sep (front ++ sep :: back) = split sep front ++ split sep back := by
  simp only [split_eq_splitOn, List.splitOn_append_cons_self]

theorem split_append {sep : Char} {front : List Char} (h : sep ∉ front) (back : List Char) :
    split sep (front ++ sep :: back) = front :: split sep back := by
  rw [split_append_sep, split_of_not_mem h, List.singleton_append]

theorem length_split (sep : Char) (cs : List Char) :
    (split sep cs).length = cs.count sep + 1 := by
  induction cs with
  | nil => rfl
  | cons c cs ih =>
    by_cases hc : c = sep
    · subst hc
      rw [split_self, List.length_cons, ih, List.count_cons_self]
    · obtain ⟨piece, pieces, hs⟩ := List.exists_cons_of_ne_nil (split_ne_nil sep cs)
      rw [hs] at ih
      rw [split_cons_of_ne hc hs, List.count_cons_of_ne hc]
      exact ih

/-! ## Putting together -/

theorem intercalate_split (sep : Char) (cs : List Char) : [sep].intercalate (split sep cs) = cs := by
  rw [split_eq_splitOn, List.intercalate_splitOn]

theorem split_intercalate {sep : Char} {pieces : List (List Char)} (hne : pieces ≠ [])
    (h : ∀ piece ∈ pieces, sep ∉ piece) : split sep ([sep].intercalate pieces) = pieces := by
  rw [split_eq_splitOn, List.splitOn_intercalate sep h hne]

/-! ## The first separator -/

theorem cutAt_eq_some_iff {sep : Char} {cs front back : List Char} :
    cutAt sep cs = some (front, back) ↔ cs = front ++ sep :: back ∧ sep ∉ front := by
  induction cs generalizing front with
  | nil => simp [cutAt]
  | cons c cs ih =>
    by_cases hc : c = sep
    · subst hc
      rw [cutAt, if_pos rfl]
      cases front with
      | nil => simp [eq_comm]
      | cons f front =>
        simp only [Option.some.injEq, Prod.mk.injEq, List.nil_eq, reduceCtorEq, false_and,
          List.cons_append, List.cons.injEq, List.mem_cons, not_or, false_iff, not_and]
        intro he hf
        exact absurd he.1 hf
    · rw [cutAt, if_neg hc, Option.map_eq_some_iff]
      constructor
      · rintro ⟨⟨before, after⟩, hb, he⟩
        cases he
        obtain ⟨rfl, hm⟩ := ih.mp hb
        refine ⟨rfl, ?_⟩
        simp only [List.mem_cons, not_or]
        exact ⟨fun e => hc e.symm, hm⟩
      · rintro ⟨he, hm⟩
        cases front with
        | nil =>
          simp only [List.nil_append, List.cons.injEq] at he
          exact absurd he.1 hc
        | cons f front =>
          simp only [List.cons_append, List.cons.injEq] at he
          obtain ⟨rfl, he⟩ := he
          simp only [List.mem_cons, not_or] at hm
          exact ⟨(front, back), ih.mpr ⟨he, hm.2⟩, rfl⟩

theorem cutAt_eq_none_iff {sep : Char} {cs : List Char} : cutAt sep cs = none ↔ sep ∉ cs := by
  induction cs with
  | nil => simp [cutAt]
  | cons c cs ih =>
    by_cases hc : c = sep
    · simp [cutAt, hc]
    · simp [cutAt, hc, ih, Ne.symm hc]

end Marginalia.Text
