import Marginalia.Outline.Anchor
import Mathlib.Data.List.Nodup
import Mathlib.Data.List.Perm.Subperm

/-! Anchors of headings are given out once: a free number is always found, so the anchors of one
document differ from each other, and each is a slug or a slug with a number. -/
namespace Marginalia.Outline
set_option autoImplicit false

/-! ## Numbers -/

theorem eq_of_repr_eq {m n : Nat} (h : Nat.repr m = Nat.repr n) : m = n := by
  have hdigits : Nat.toDigits 10 m = Nat.toDigits 10 n := by
    rw [← Nat.toList_repr, ← Nat.toList_repr, h]
  have hvalue := congrArg (Nat.ofDigitChars 10 · 0) hdigits
  simpa only [Nat.ofDigitChars_ten_toDigits] using hvalue

theorem isDigit_of_mem_repr {n : Nat} {c : Char} (h : c ∈ (Nat.repr n).toList) :
    c.isDigit = true := by
  rw [Nat.toList_repr] at h
  exact Nat.isDigit_of_mem_toDigits (by decide) (by decide) h

theorem numbered_injective {base : String} {m n : Nat} (h : numbered base m = numbered base n) :
    m = n :=
  eq_of_repr_eq ((String.append_right_inj _).mp h)

/-- If the number looked for is taken, so are all that were tried. -/
theorem mem_of_firstFree_mem {used : List String} {base : String} {tries n : Nat}
    (h : numbered base (firstFree used base tries n) ∈ used) {k : Nat} (hn : n < k)
    (hk : k ≤ n + tries + 1) : numbered base k ∈ used := by
  induction tries generalizing n with
  | zero =>
    have heq : k = n + 1 := by omega
    rwa [heq]
  | succ tries ih =>
    rw [firstFree] at h
    split at h
    next hused =>
      by_cases heq : k = n + 1
      · rwa [heq]
      · exact ih h (by omega) (by omega)
    next hfree => exact absurd h hfree

theorem firstFree_not_mem (used : List String) (base : String) (n : Nat) :
    numbered base (firstFree used base used.length n) ∉ used := by
  intro h
  let tried := (List.range (used.length + 1)).map fun i => numbered base (n + 1 + i)
  have hnodup : tried.Nodup := by
    refine List.Nodup.map (fun i j hij => ?_) List.nodup_range
    have := numbered_injective hij
    omega
  have hsub : tried ⊆ used := by
    intro x hx
    obtain ⟨i, hi, rfl⟩ := List.mem_map.mp hx
    rw [List.mem_range] at hi
    exact mem_of_firstFree_mem h (by omega) (by omega)
  have hlength := (hnodup.subperm hsub).length_le
  rw [List.length_map, List.length_range] at hlength
  omega

/-! ## One anchor -/

namespace Anchors

theorem take_cases (a : Anchors) (text : String) :
    (slug text ∉ a.used ∧ (a.take text).1 = slug text) ∨
    (slug text ∈ a.used ∧ ∃ n, (a.take text).1 = numbered (slug text) n) := by
  by_cases h : slug text ∈ a.used
  · refine .inr ⟨h, firstFree a.used (slug text) a.used.length (a.count (slug text)), ?_⟩
    rw [take, if_pos h]
  · refine .inl ⟨h, ?_⟩
    rw [take, if_neg h]

theorem take_not_mem (a : Anchors) (text : String) : (a.take text).1 ∉ a.used := by
  rw [take]
  split
  next => exact firstFree_not_mem _ _ _
  next h => exact h

theorem used_take (a : Anchors) (text : String) :
    (a.take text).2.used = (a.take text).1 :: a.used := by
  rw [take]
  split
  next => rfl
  next => rfl

theorem slug_mem_used_take (a : Anchors) (text : String) :
    slug text ∈ (a.take text).2.used := by
  rw [used_take]
  obtain ⟨-, h⟩ | ⟨h, -⟩ := a.take_cases text
  · rw [h]
    exact List.mem_cons_self ..
  · exact List.mem_cons_of_mem _ h

/-! ## The anchors of a document -/

/-- The anchors given out for headings one after the other. -/
def given (a : Anchors) : List String → List String
  | [] => []
  | text :: texts => (a.take text).1 :: given (a.take text).2 texts

/-- What is in use once the headings have their anchors. -/
def after (a : Anchors) (texts : List String) : Anchors :=
  texts.foldl (fun a text => (a.take text).2) a

theorem given_append (a : Anchors) (front back : List String) :
    a.given (front ++ back) = a.given front ++ (a.after front).given back := by
  induction front generalizing a with
  | nil => rfl
  | cons text front ih => rw [List.cons_append, given, given, ih, List.cons_append, after, after,
      List.foldl_cons]

theorem not_mem_used_of_mem_given {a : Anchors} {texts : List String} {anchor : String}
    (h : anchor ∈ a.given texts) : anchor ∉ a.used := by
  induction texts generalizing a with
  | nil => exact absurd h (by simp [given])
  | cons text texts ih =>
    rw [given, List.mem_cons] at h
    obtain rfl | h := h
    · exact a.take_not_mem text
    · have hrest := ih h
      rw [used_take, List.mem_cons, not_or] at hrest
      exact hrest.2

/-- No anchor is given out twice. -/
theorem given_nodup (a : Anchors) (texts : List String) : (a.given texts).Nodup := by
  induction texts generalizing a with
  | nil => exact List.nodup_nil
  | cons text texts ih =>
    rw [given, List.nodup_cons]
    refine ⟨fun h => ?_, ih _⟩
    have hfresh := not_mem_used_of_mem_given h
    rw [used_take] at hfresh
    exact hfresh (List.mem_cons_self ..)

/-- The slug of a heading is an anchor: the first heading with the slug has it. -/
theorem slug_mem_given {a : Anchors} {texts : List String} {text : String} (h : text ∈ texts) :
    slug text ∈ a.used ∨ slug text ∈ a.given texts := by
  induction texts generalizing a with
  | nil => exact absurd h List.not_mem_nil
  | cons first texts ih =>
    have hused : slug text ∈ (a.take first).2.used ∨ slug text ∈ (a.take first).2.given texts := by
      obtain rfl | h := List.mem_cons.mp h
      · exact .inl (a.slug_mem_used_take text)
      · exact ih h
    rw [used_take, List.mem_cons] at hused
    rw [given, List.mem_cons]
    tauto

theorem mem_given_cases {a : Anchors} {texts : List String} {anchor : String}
    (h : anchor ∈ a.given texts) :
    ∃ text ∈ texts, anchor = slug text ∨ ∃ n, anchor = numbered (slug text) n := by
  induction texts generalizing a with
  | nil => exact absurd h (by simp [given])
  | cons text texts ih =>
    rw [given, List.mem_cons] at h
    obtain rfl | h := h
    · refine ⟨text, List.mem_cons_self .., ?_⟩
      obtain ⟨-, ht⟩ | ⟨-, n, ht⟩ := a.take_cases text
      · exact .inl ht
      · exact .inr ⟨n, ht⟩
    · obtain ⟨other, hother, hcases⟩ := ih h
      exact ⟨other, List.mem_cons_of_mem text hother, hcases⟩

end Anchors

end Marginalia.Outline
