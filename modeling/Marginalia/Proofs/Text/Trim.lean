import Marginalia.Proofs.Text.Start
import Marginalia.Text.Alphanumeric

/-! Trimming, said by what stands at the two ends of a text, and letters and digits, which are never
trimmed. -/
namespace Marginalia.Text
set_option autoImplicit false

/-! ## Both ends of a text -/

variable {p : Char → Bool} {front back cs : List Char}

theorem dropWhileEnd_append (h : ∀ c ∈ back, p c = true) :
    dropWhileEnd p (front ++ back) = dropWhileEnd p front := by
  rw [dropWhileEnd, List.reverse_append, List.dropWhile_append_of_pos fun c hc =>
    h c (List.mem_reverse.mp hc)]
  rfl

theorem dropWhileEnd_concat {c : Char} (h : p c = false) :
    dropWhileEnd p (front ++ [c]) = front ++ [c] := by
  rw [dropWhileEnd, List.reverse_concat, List.dropWhile_cons_of_neg (by simp [h]),
    List.reverse_cons, List.reverse_reverse]

theorem trim_of_blank (h : allBlank cs = true) : trim cs = [] := by
  rw [trim, trimStart_eq_nil_iff.mpr h]
  rfl

/-- Blanks in front and behind go; what stands between them stays as it is. -/
theorem trim_between {c d : Char} {mid : List Char} (hfront : ∀ x ∈ front, isBlank x = true)
    (hback : ∀ x ∈ back, isBlank x = true) (hhead : cs.head? = some c) (hc : isBlank c = false)
    (hlast : cs = mid ++ [d]) (hd : isBlank d = false) : trim (front ++ cs ++ back) = cs := by
  have hstart : trimStart (front ++ cs ++ back) = cs ++ back := by
    rw [trimStart, List.append_assoc, List.dropWhile_append_of_pos hfront]
    obtain ⟨rest, rfl⟩ := List.head?_eq_some_iff.mp hhead
    rw [List.cons_append, List.dropWhile_cons_of_neg (by simp [hc])]
  rw [trim, hstart, trimEnd, dropWhileEnd_append hback, hlast, dropWhileEnd_concat hd]

theorem trim_eq_self {c d : Char} {mid : List Char} (hhead : cs.head? = some c)
    (hc : isBlank c = false) (hlast : cs = mid ++ [d]) (hd : isBlank d = false) : trim cs = cs := by
  have h : trim ([] ++ cs ++ []) = cs := trim_between (by simp) (by simp) hhead hc hlast hd
  rwa [List.append_nil, List.nil_append] at h

/-! ## Letters and digits -/

theorem ne_of_alphanumeric {c d : Char} (hc : isAlphanumeric c = true)
    (hd : isAlphanumeric d = false) : c ≠ d := by
  rintro rfl
  rw [hc] at hd
  cases hd

/-- The blanks beyond ASCII. -/
def blankRanges : List CodeRange :=
  [⟨0x85, 0x85⟩, ⟨0xA0, 0xA0⟩, ⟨0x1680, 0x1680⟩, ⟨0x2000, 0x200A⟩, ⟨0x2028, 0x2029⟩,
    ⟨0x202F, 0x202F⟩, ⟨0x205F, 0x205F⟩, ⟨0x3000, 0x3000⟩]

theorem inClass_blankRanges {c : Char} (h : isBlank c = true) (hc : 0x80 ≤ c.toNat) :
    inClass blankRanges c = true := by
  simp only [isBlank, Bool.or_eq_true, Bool.and_eq_true, decide_eq_true_eq, beq_iff_eq] at h
  simp only [inClass, blankRanges, List.any_cons, List.any_nil, CodeRange.holds, Bool.or_eq_true,
    Bool.and_eq_true, decide_eq_true_eq]
  omega

/-- Does the one run end before the other starts? -/
def CodeRange.apart (r s : CodeRange) : Bool :=
  r.last < s.first || s.last < r.first

theorem alphanumericRanges_apart :
    alphanumericRanges.all (fun r => blankRanges.all r.apart) = true := by
  decide +kernel

theorem not_blank_of_alphanumeric {c : Char} (h : isAlphanumeric c = true) : isBlank c = false := by
  rw [← Bool.not_eq_true]
  intro hb
  rw [isAlphanumeric] at h
  split at h
  next hsmall =>
    have hascii : ∀ n < 0x80, (!(Char.ofNat n).isAlphanum || !isBlank (Char.ofNat n)) = true := by
      decide
    have hc := hascii c.toNat hsmall
    rw [Char.ofNat_toNat, h, hb] at hc
    cases hc
  next hlarge =>
    obtain ⟨r, hr, hholds⟩ := List.any_eq_true.mp h
    obtain ⟨s, hs, hholds'⟩ := List.any_eq_true.mp (inClass_blankRanges hb (by omega))
    have hapart := List.all_eq_true.mp (List.all_eq_true.mp alphanumericRanges_apart r hr) s hs
    simp only [CodeRange.holds, CodeRange.apart, Bool.and_eq_true, Bool.or_eq_true,
      decide_eq_true_eq] at hholds hholds' hapart
    omega

end Marginalia.Text
