import Marginalia.Proofs.Outline.Anchor

/-! The characters of slugs and anchors. Lower case leads back to ASCII in two places only, the dotted
capital I and the Kelvin sign, so no capital letter of ASCII comes into an anchor. -/
namespace Marginalia.Outline
open Marginalia.Text
set_option autoImplicit false

/-! ## Lower case -/

/-- The run leads to characters beyond ASCII. -/
def landsBeyondAscii (r : CaseRun) : Bool :=
  decide (0x80 ≤ r.first + r.shift) && decide (r.last + r.shift < 0xD800) ||
    decide (0xE000 ≤ r.first + r.shift) && decide (r.last + r.shift < 0x110000)

theorem lowerRuns_land :
    lowerRuns.all (fun r => landsBeyondAscii r ||
      (r.first == 0x212A && r.last == 0x212A && r.shift == -8383)) = true := by
  decide

theorem toNat_apply {r : CaseRun} {n : Nat} (hl : landsBeyondAscii r = true)
    (hn : r.holds n = true) : 0x80 ≤ (r.apply n).toNat := by
  simp only [landsBeyondAscii, Bool.or_eq_true, Bool.and_eq_true, decide_eq_true_eq] at hl
  simp only [CaseRun.holds, Bool.and_eq_true, decide_eq_true_eq] at hn
  have hvalid : (((n : Int) + r.shift).toNat).isValidChar := by
    rw [Nat.isValidChar]
    omega
  rw [CaseRun.apply, Char.ofNat, dif_pos hvalid]
  show 0x80 ≤ ((n : Int) + r.shift).toNat
  omega

/-- Where a character in lower case comes from. -/
theorem mem_lowerChar_cases {c x : Char} (h : x ∈ lowerChar c) :
    (c.toNat < 0x80 ∧ x = c.toLower) ∨ x = 'i' ∨ x = Char.ofNat 0x307 ∨
      (0x80 ≤ c.toNat ∧ x = c) ∨ ∃ r ∈ lowerRuns, r.holds c.toNat = true ∧ x = r.apply c.toNat := by
  unfold lowerChar at h
  split at h
  next hc => exact .inl ⟨hc, List.mem_singleton.mp h⟩
  next hc =>
    split at h
    next =>
      obtain hx | hx := List.mem_cons.mp h
      · exact .inr (.inl hx)
      · exact .inr (.inr (.inl (List.mem_singleton.mp hx)))
    next =>
      rw [List.mem_singleton] at h
      subst h
      unfold mapCase
      cases hr : lowerRuns.find? (·.holds c.toNat) with
      | none => exact .inr (.inr (.inr (.inl ⟨Nat.not_lt.mp hc, rfl⟩)))
      | some r =>
        have hholds : r.holds c.toNat = true := by simpa using List.find?_some hr
        exact .inr (.inr (.inr (.inr ⟨r, List.mem_of_find?_eq_some hr, hholds, rfl⟩)))

/-- An ASCII character in lower case comes from ASCII, or it is one of two letters. -/
theorem ascii_of_mem_lowerChar {c x : Char} (h : x ∈ lowerChar c) (hx : x.toNat < 0x80) :
    (c.toNat < 0x80 ∧ x = c.toLower) ∨ x = 'i' ∨ x = 'k' := by
  obtain hascii | rfl | rfl | ⟨hc, rfl⟩ | ⟨r, hr, hholds, rfl⟩ := mem_lowerChar_cases h
  · exact .inl hascii
  · exact .inr (.inl rfl)
  · exact absurd hx (by decide)
  · exact absurd hx (Nat.not_lt.mpr hc)
  · have hland := List.all_eq_true.mp lowerRuns_land r hr
    rw [Bool.or_eq_true] at hland
    obtain hland | hkelvin := hland
    · exact absurd hx (Nat.not_lt.mpr (toNat_apply hland hholds))
    · simp only [Bool.and_eq_true, beq_iff_eq] at hkelvin
      simp only [CaseRun.holds, Bool.and_eq_true, decide_eq_true_eq] at hholds
      have hc : c.toNat = 0x212A := by omega
      refine .inr (.inr ?_)
      rw [hc, CaseRun.apply, hkelvin.2]
      decide

theorem toNat_of_isUpper {x : Char} (h : x.isUpper = true) : 65 ≤ x.toNat ∧ x.toNat ≤ 90 := by
  delta Char.isUpper at h
  simp only [decide_eq_true_eq, ge_iff_le, UInt32.le_iff_toNat_le] at h
  exact h

theorem not_upper_of_isDigit {x : Char} (h : x.isDigit = true) : x.isUpper = false := by
  rw [Bool.eq_false_iff]
  intro hupper
  have hrange := toNat_of_isUpper hupper
  delta Char.isDigit at h
  simp only [Bool.and_eq_true, decide_eq_true_eq, ge_iff_le, UInt32.le_iff_toNat_le] at h
  have hnine : x.toNat ≤ 57 := h.2
  omega

theorem not_upper_of_mem_lowerChar {c x : Char} (h : x ∈ lowerChar c) : x.isUpper = false := by
  have hascii : ∀ n < 0x80, (Char.ofNat n).toLower.isUpper = false := by decide +kernel
  rw [Bool.eq_false_iff]
  intro hupper
  have hx : x.toNat < 0x80 := by
    have hrange := toNat_of_isUpper hupper
    omega
  obtain ⟨hc, rfl⟩ | rfl | rfl := ascii_of_mem_lowerChar h hx
  · have hlower := hascii c.toNat hc
    rw [Char.ofNat_toNat, hupper] at hlower
    exact absurd hlower (by decide)
  · exact absurd hupper (by decide)
  · exact absurd hupper (by decide)

theorem alphanum_of_mem_lowerChar {c x : Char} (hc : isAlphanumeric c = true) (h : x ∈ lowerChar c)
    (hx : x.toNat < 0x80) : x.isAlphanum = true := by
  have hascii : ∀ n < 0x80,
      (!(Char.ofNat n).isAlphanum || (Char.ofNat n).toLower.isAlphanum) = true := by decide
  obtain ⟨hsmall, rfl⟩ | rfl | rfl := ascii_of_mem_lowerChar h hx
  · rw [isAlphanumeric, if_pos hsmall] at hc
    have hlower := hascii c.toNat hsmall
    rwa [Char.ofNat_toNat, hc, Bool.not_true, Bool.false_or] at hlower
  · decide
  · decide

/-! ## Slugs -/

theorem mem_slugChars {started pending : Bool} {cs : List Char} {x : Char}
    (h : x ∈ slugChars started pending cs) :
    x = '-' ∨ ∃ c ∈ cs, isAlphanumeric c = true ∧ x ∈ lowerChar c := by
  induction cs generalizing started pending with
  | nil => exact absurd h (by simp [slugChars])
  | cons c cs ih =>
    have hrest : ∀ {started pending}, x ∈ slugChars started pending cs →
        x = '-' ∨ ∃ b ∈ c :: cs, isAlphanumeric b = true ∧ x ∈ lowerChar b := by
      intro started pending hm
      obtain hx | ⟨b, hb, hx⟩ := ih hm
      · exact .inl hx
      · exact .inr ⟨b, List.mem_cons_of_mem c hb, hx⟩
    rw [slugChars] at h
    split at h
    next halpha =>
      rw [List.mem_append, List.mem_append] at h
      obtain (hdash | hletter) | hm := h
      · split at hdash
        · exact .inl (List.mem_singleton.mp hdash)
        · exact absurd hdash List.not_mem_nil
      · exact .inr ⟨c, List.mem_cons_self .., halpha, hletter⟩
      · exact hrest hm
    next =>
      split at h
      · exact hrest h
      · exact hrest h

theorem mem_slug {text : String} {x : Char} (h : x ∈ (slug text).toList) :
    x = '-' ∨ x ∈ emptySlug.toList ∨
      ∃ c ∈ text.toList, isAlphanumeric c = true ∧ x ∈ lowerChar c := by
  unfold slug at h
  split at h
  next => exact .inr (.inl h)
  next =>
    rw [String.toList_ofList] at h
    obtain hx | hx := mem_slugChars h
    · exact .inl hx
    · exact .inr (.inr hx)

theorem not_upper_of_mem_slug {text : String} {x : Char} (h : x ∈ (slug text).toList) :
    x.isUpper = false := by
  have hempty : emptySlug.toList.all (fun c => !c.isUpper) = true := by decide
  obtain rfl | hx | ⟨c, -, -, hx⟩ := mem_slug h
  · decide
  · simpa using List.all_eq_true.mp hempty x hx
  · exact not_upper_of_mem_lowerChar hx

theorem alphanum_of_mem_slug {text : String} {x : Char} (h : x ∈ (slug text).toList)
    (hx : x.toNat < 0x80) : x = '-' ∨ x.isAlphanum = true := by
  have hempty : emptySlug.toList.all (fun c => c.isAlphanum) = true := by decide
  obtain rfl | hm | ⟨c, -, hc, hm⟩ := mem_slug h
  · exact .inl rfl
  · exact .inr (List.all_eq_true.mp hempty x hm)
  · exact .inr (alphanum_of_mem_lowerChar hc hm hx)

/-! ## Anchors -/

theorem mem_numbered {base : String} {n : Nat} {x : Char} (h : x ∈ (numbered base n).toList) :
    x ∈ base.toList ∨ x = '-' ∨ x.isDigit = true := by
  rw [numbered, String.toList_append, String.toList_append, List.mem_append, List.mem_append] at h
  obtain (hx | hx) | hx := h
  · exact .inl hx
  · exact .inr (.inl (by simpa using hx))
  · exact .inr (.inr (isDigit_of_mem_repr hx))

theorem getLast?_numbered (base : String) (n : Nat) :
    ∃ c, (numbered base n).toList.getLast? = some c ∧ c.isDigit = true := by
  have hne : (Nat.repr n).toList ≠ [] := by
    rw [Nat.toList_repr]
    exact Nat.toDigits_ne_nil
  refine ⟨(Nat.repr n).toList.getLast hne, ?_, isDigit_of_mem_repr (List.getLast_mem hne)⟩
  rw [numbered, String.toList_append, List.getLast?_append_of_ne_nil _ hne,
    List.getLast?_eq_some_getLast hne]

/-- What an anchor has of ASCII is letters, digits and dashes. -/
theorem alphanum_of_mem_anchor {a : Anchors} {texts : List String} {anchor : String}
    (h : anchor ∈ a.given texts) {x : Char} (hm : x ∈ anchor.toList) (hx : x.toNat < 0x80) :
    x = '-' ∨ x.isAlphanum = true := by
  obtain ⟨text, -, rfl | ⟨n, rfl⟩⟩ := Anchors.mem_given_cases h
  · exact alphanum_of_mem_slug hm hx
  · obtain hm | rfl | hdigit := mem_numbered hm
    · exact alphanum_of_mem_slug hm hx
    · exact .inl rfl
    · exact .inr (by simp [Char.isAlphanum, hdigit])

/-- No anchor has a capital letter. -/
theorem not_upper_of_mem_anchor {a : Anchors} {texts : List String} {anchor : String}
    (h : anchor ∈ a.given texts) {x : Char} (hx : x ∈ anchor.toList) : x.isUpper = false := by
  obtain ⟨text, -, rfl | ⟨n, rfl⟩⟩ := Anchors.mem_given_cases h
  · exact not_upper_of_mem_slug hx
  · obtain hx | rfl | hx := mem_numbered hx
    · exact not_upper_of_mem_slug hx
    · decide
    · exact not_upper_of_isDigit hx

/-- A text that does not end in a digit is an anchor if it is the slug of a heading, and only then. -/
theorem mem_given_iff {texts : List String} {anchor : String}
    (h : anchor.toList.getLast?.all (fun c => !c.isDigit) = true) :
    anchor ∈ Anchors.given {} texts ↔ ∃ text ∈ texts, slug text = anchor := by
  constructor
  · intro hm
    obtain ⟨text, ht, rfl | ⟨n, rfl⟩⟩ := Anchors.mem_given_cases hm
    · exact ⟨text, ht, rfl⟩
    · obtain ⟨c, hc, hdigit⟩ := getLast?_numbered (slug text) n
      rw [hc, Option.all_some, hdigit] at h
      exact absurd h (by decide)
  · rintro ⟨text, ht, rfl⟩
    obtain hused | hgiven := @Anchors.slug_mem_given {} texts text ht
    · exact absurd hused List.not_mem_nil
    · exact hgiven

end Marginalia.Outline
