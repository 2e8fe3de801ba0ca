import Marginalia.Site.Basic
import Marginalia.Url.Percent
import Mathlib.Logic.Function.Basic

/-! Anchors of files and how they are read. An underscore opens a code point and the next one closes
it; the digits between them are no underscores, so an anchor is read from left to right in one way,
and reading takes it back to its path. -/
namespace Marginalia.Site
set_option autoImplicit false

/-! ## Reading an anchor -/

/-- Reads the characters of an anchor. Inside a code point, `code` is what its digits so far stand
for. -/
def readAnchor (code : Option Nat) : List Char → List Char
  | [] => []
  | c :: cs =>
    match code with
    | none =>
      if c = '_' then readAnchor (some 0) cs
      else (if c = '-' then '/' else c) :: readAnchor none cs
    | some n =>
      if c = '_' then Char.ofNat n :: readAnchor none cs
      else readAnchor (some (16 * n + (Url.hexValue? c).getD 0)) cs

/-- The path whose anchor it is. -/
def anchoredPath (anchor : String) : String :=
  String.ofList (readAnchor none anchor.toList)

/-- May the character stand in an anchor? -/
def isAnchorChar (c : Char) : Bool :=
  c.isAlphanum || c = '.' || c = '-' || c = '_'

/-! ## Code points -/

theorem digitChar_spec : ∀ n < 16, Nat.digitChar n ≠ '_' ∧
    (Nat.digitChar n).isAlphanum = true ∧ Url.hexValue? (Nat.digitChar n) = some n := by
  decide

theorem readAnchor_digitChar {d : Nat} (hd : d < 16) (n : Nat) (rest : List Char) :
    readAnchor (some n) (Nat.digitChar d :: rest) = readAnchor (some (16 * n + d)) rest := by
  obtain ⟨hne, -, hvalue⟩ := digitChar_spec d hd
  rw [readAnchor, if_neg hne, hvalue, Option.getD_some]

/-- The digits of a number are read as the number. -/
theorem readAnchor_toDigits (n : Nat) (rest : List Char) :
    readAnchor (some 0) (Nat.toDigits 16 n ++ rest) = readAnchor (some n) rest := by
  induction n using Nat.strongRecOn generalizing rest with
  | ind n ih =>
    rw [Nat.toDigits_eq_if (by decide)]
    split
    next hn => rw [List.singleton_append, readAnchor_digitChar hn, Nat.mul_zero, Nat.zero_add]
    next hn =>
      -- all digits but the last are those of a smaller number
      have hdigit : n % 16 < 16 := Nat.mod_lt n (by decide)
      rw [List.append_assoc, List.singleton_append, ih (n / 16) (by omega),
        readAnchor_digitChar hdigit, Nat.div_add_mod]

theorem mem_toDigits {n : Nat} {x : Char} (h : x ∈ Nat.toDigits 16 n) :
    ∃ d < 16, x = Nat.digitChar d := by
  induction n using Nat.strongRecOn with
  | ind n ih =>
    rw [Nat.toDigits_eq_if (by decide)] at h
    split at h
    next hn => exact ⟨n, hn, List.mem_singleton.mp h⟩
    next hn =>
      rcases List.mem_append.mp h with hfront | hlast
      · exact ih (n / 16) (by omega) hfront
      · exact ⟨n % 16, Nat.mod_lt n (by decide), List.mem_singleton.mp hlast⟩

/-! ## Characters of a path -/

/-- How a character is written: it stays, or it is the slash, or its code point is written. -/
theorem anchorChar_cases (c : Char) :
    ((c.isAlphanum = true ∨ c = '.') ∧ anchorChar c = [c]) ∨ (c = '/' ∧ anchorChar c = ['-']) ∨
      anchorChar c = '_' :: Nat.toDigits 16 c.toNat ++ ['_'] := by
  rw [anchorChar]
  split
  next hkept => exact .inl ⟨by simpa using hkept, rfl⟩
  next =>
    split
    next hslash => exact .inr (.inl ⟨hslash, rfl⟩)
    next => exact .inr (.inr rfl)

theorem readAnchor_anchorChar (c : Char) (rest : List Char) :
    readAnchor none (anchorChar c ++ rest) = c :: readAnchor none rest := by
  obtain ⟨hkept, hc⟩ | ⟨rfl, hc⟩ | hc := anchorChar_cases c
  · have hunder : c ≠ '_' := by
      rintro rfl
      exact absurd hkept (by decide)
    have hdash : c ≠ '-' := by
      rintro rfl
      exact absurd hkept (by decide)
    rw [hc, List.singleton_append, readAnchor, if_neg hunder, if_neg hdash]
  · rw [hc, List.singleton_append, readAnchor, if_neg (by decide), if_pos rfl]
  · rw [hc, List.cons_append, List.cons_append, List.append_assoc, readAnchor, if_pos rfl,
      readAnchor_toDigits, List.singleton_append, readAnchor, if_pos rfl, Char.ofNat_toNat]

theorem isAnchorChar_of_mem {c x : Char} (h : x ∈ anchorChar c) : isAnchorChar x = true := by
  obtain ⟨hkept, hc⟩ | ⟨-, hc⟩ | hc := anchorChar_cases c
  · rw [hc, List.mem_singleton] at h
    subst h
    rcases hkept with hletter | rfl
    · simp [isAnchorChar, hletter]
    · decide
  · rw [hc, List.mem_singleton] at h
    rw [h]
    decide
  · rw [hc, List.cons_append, List.mem_cons, List.mem_append, List.mem_singleton] at h
    rcases h with rfl | hdigit | rfl
    · decide
    · obtain ⟨d, hd, rfl⟩ := mem_toDigits hdigit
      simp [isAnchorChar, (digitChar_spec d hd).2.1]
    · decide

/-! ## Anchors -/

theorem anchoredPath_fileAnchor (path : String) : anchoredPath (fileAnchor path) = path := by
  have hcs : ∀ cs : List Char, readAnchor none (cs.flatMap anchorChar) = cs := by
    intro cs
    induction cs with
    | nil => rfl
    | cons c cs ih => rw [List.flatMap_cons, readAnchor_anchorChar, ih]
  rw [anchoredPath, fileAnchor, String.toList_ofList, hcs, String.ofList_toList]

/-- Different files have different anchors, since a path can be read from its anchor; and an anchor
has no characters but ASCII letters, digits, dots, dashes and underscores. -/
theorem fileAnchor_injective_and_safe :
    Function.Injective fileAnchor ∧ (∀ path, anchoredPath (fileAnchor path) = path) ∧
      ∀ path, (fileAnchor path).toList.all isAnchorChar = true := by
  refine ⟨Function.LeftInverse.injective anchoredPath_fileAnchor, anchoredPath_fileAnchor, ?_⟩
  intro path
  rw [fileAnchor, String.toList_ofList, List.all_flatMap, List.all_eq_true]
  exact fun c _ => List.all_eq_true.mpr fun x hx => isAnchorChar_of_mem hx

/-- An escaped space beside the text of that escape. -/
example : fileAnchor "a b" = "a_20_b" ∧ fileAnchor "a_20_b" = "a_5f_20_5f_b" := by
  decide

end Marginalia.Site
