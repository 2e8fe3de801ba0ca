import Marginalia.Text.Basic
import Mathlib.Data.List.Infix
import Mathlib.Data.List.TakeWhile

/-! What a text starts with, said by `++`: the part that `after?` takes off, the blanks that
`trimStart` takes off, the slashes at both ends, and the element that `largest?` picks. -/
namespace Marginalia.Text
set_option autoImplicit false

/-! ## Taking off a start -/

theorem after?_eq_some_iff {start cs rest : List Char} :
    after? start cs = some rest ↔ cs = start ++ rest := by
  induction start generalizing cs with
  | nil => simp [after?, eq_comm]
  | cons s start ih =>
    cases cs with
    | nil => simp [after?]
    | cons c cs =>
      by_cases h : s = c
      · subst h
        simp [after?, ih]
      · have h' : ¬ c = s := fun e => h e.symm
        simp [after?, h, h']

theorem startsWith_iff {start cs : List Char} : startsWith start cs = true ↔ start <+: cs := by
  rw [startsWith, Option.isSome_iff_exists]
  constructor
  · rintro ⟨rest, h⟩
    exact ⟨rest, (after?_eq_some_iff.mp h).symm⟩
  · rintro ⟨rest, h⟩
    exact ⟨rest, after?_eq_some_iff.mpr h.symm⟩

theorem length_le_of_startsWith {start cs : List Char} (h : startsWith start cs = true) :
    start.length ≤ cs.length :=
  (startsWith_iff.mp h).length_le

/-! ## Blanks at the start -/

theorem length_trimStart_le (cs : List Char) : (trimStart cs).length ≤ cs.length :=
  (List.dropWhile_suffix isBlank).length_le

/-- The number of characters that `trimStart` takes off is the length of the indentation. -/
theorem length_sub_trimStart (cs : List Char) :
    cs.length - (trimStart cs).length = (cs.takeWhile isBlank).length := by
  have h := congrArg List.length (List.takeWhile_append_dropWhile (p := isBlank) (l := cs))
  rw [List.length_append] at h
  rw [trimStart]
  omega

theorem drop_indent (cs : List Char) (n : Nat) :
    cs.drop (cs.length - (trimStart cs).length + n) = (trimStart cs).drop n := by
  have h := List.takeWhile_append_dropWhile (p := isBlank) (l := cs)
  rw [length_sub_trimStart]
  nth_rewrite 2 [← h]
  rw [← List.drop_drop, List.drop_left, trimStart]

theorem trimStart_eq_nil_iff {cs : List Char} : trimStart cs = [] ↔ allBlank cs = true := by
  rw [trimStart, List.dropWhile_eq_nil_iff, allBlank, List.all_eq_true]

theorem not_blank_of_head?_trimStart {cs : List Char} :
    ∀ c ∈ (trimStart cs).head?, isBlank c = false := by
  intro c hc
  have h := List.head?_dropWhile_not isBlank cs
  rw [trimStart] at hc
  rw [Option.mem_def.mp hc] at h
  simpa using h

/-! ## Slashes at the ends -/

theorem exists_slashes_dropWhile (cs : List Char) :
    ∃ n, cs = List.replicate n '/' ++ cs.dropWhile (· = '/') := by
  have hall : ∀ c ∈ cs.takeWhile (· = '/'), c = '/' := fun c hc => by
    simpa using List.mem_takeWhile_imp hc
  refine ⟨(cs.takeWhile (· = '/')).length, ?_⟩
  rw [← List.eq_replicate_of_mem hall, List.takeWhile_append_dropWhile]

theorem exists_slashes_dropWhileEnd (cs : List Char) :
    ∃ n, cs = dropWhileEnd (· = '/') cs ++ List.replicate n '/' := by
  obtain ⟨n, hn⟩ := exists_slashes_dropWhile cs.reverse
  refine ⟨n, ?_⟩
  rw [dropWhileEnd, ← List.reverse_replicate, ← List.reverse_append, ← hn, List.reverse_reverse]

theorem dropWhile_slashes (n : Nat) {cs : List Char} (h : cs.head? ≠ some '/') :
    (List.replicate n '/' ++ cs).dropWhile (· = '/') = cs := by
  rw [List.dropWhile_append_of_pos (by simp)]
  cases cs with
  | nil => rfl
  | cons c cs => exact List.dropWhile_cons_of_neg (by simpa using h)

theorem dropWhileEnd_slashes (n : Nat) {cs : List Char} (h : cs.getLast? ≠ some '/') :
    dropWhileEnd (· = '/') (cs ++ List.replicate n '/') = cs := by
  rw [dropWhileEnd, List.reverse_append, List.reverse_replicate,
    dropWhile_slashes n (by rwa [List.head?_reverse]), List.reverse_reverse]

/-! ## The largest of several -/

theorem largest?_eq_none_iff {α : Type} {size : α → Nat} {as : List α} :
    largest? size as = none ↔ as = [] := by
  cases as with
  | nil => simp [largest?]
  | cons a rest =>
    cases hr : largest? size rest with
    | none => simp [largest?, hr]
    | some b =>
      simp only [largest?, hr]
      split <;> simp

theorem le_largest? {α : Type} {size : α → Nat} {as : List α} {a : α}
    (h : largest? size as = some a) : ∀ x ∈ as, size x ≤ size a := by
  induction as generalizing a with
  | nil => simp
  | cons b rest ih =>
    intro x hx
    cases hr : largest? size rest with
    | none =>
      rw [largest?_eq_none_iff] at hr
      subst hr
      simp only [largest?, Option.some.injEq] at h
      rw [List.mem_singleton.mp hx, h]
    | some c =>
      have hrest := ih hr
      simp only [largest?, hr] at h
      split at h
      · simp only [Option.some.injEq] at h
        subst h
        cases hx with
        | head => exact le_rfl
        | tail _ hx => have hxc := hrest x hx; omega
      · simp only [Option.some.injEq] at h
        subst h
        cases hx with
        | head => omega
        | tail _ hx => exact hrest x hx

theorem largest?_mem {α : Type} {size : α → Nat} {as : List α} {a : α}
    (h : largest? size as = some a) : a ∈ as := by
  induction as generalizing a with
  | nil => simp [largest?] at h
  | cons b rest ih =>
    cases hr : largest? size rest with
    | none =>
      simp only [largest?, hr, Option.some.injEq] at h
      simp [h]
    | some c =>
      simp only [largest?, hr] at h
      split at h
      · simp only [Option.some.injEq] at h
        simp [h]
      · simp only [Option.some.injEq] at h
        subst h
        exact List.mem_cons_of_mem b (ih hr)

end Marginalia.Text
