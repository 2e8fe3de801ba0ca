import Marginalia.Text.Utf8
import Mathlib.Data.List.Lex
import Mathlib.Data.String.Basic

/-! Texts are ordered as their bytes are. The bytes of a character are its digits to the base 64, the
highest one with a mark of how many follow: longer characters have higher marks, and of two characters
of one length the digits decide. -/
namespace Marginalia.Text
set_option autoImplicit false

/-! ## Digits -/

theorem ofNat_lt_ofNat {m n : Nat} (h : m < n) (hn : n < 256) : UInt8.ofNat m < UInt8.ofNat n := by
  rw [UInt8.lt_iff_toNat_lt, UInt8.toNat_ofNat', UInt8.toNat_ofNat', Nat.mod_eq_of_lt hn,
    Nat.mod_eq_of_lt (by omega)]
  exact h

/-- The bytes of a number: its last `k` digits, and before them the rest with a mark. -/
def spread (mark : Nat) : Nat → Nat → List UInt8
  | 0, v => [UInt8.ofNat (v + mark)]
  | k + 1, v => spread mark k (v / 64) ++ [UInt8.ofNat (v % 64 + 128)]

theorem spread_eq_cons (mark k v : Nat) :
    ∃ digits, spread mark k v = UInt8.ofNat (v / 64 ^ k + mark) :: digits := by
  induction k generalizing v with
  | zero => exact ⟨[], by rw [spread, pow_zero, Nat.div_one]⟩
  | succ k ih =>
    obtain ⟨digits, hdigits⟩ := ih (v / 64)
    refine ⟨digits ++ [UInt8.ofNat (v % 64 + 128)], ?_⟩
    rw [spread, hdigits, List.cons_append, Nat.div_div_eq_div_mul, ← pow_succ']

theorem spread_append_lt {mark k u v : Nat} (h : u < v) (hv : v / 64 ^ k + mark < 256)
    (front back : List UInt8) : spread mark k u ++ front < spread mark k v ++ back := by
  induction k generalizing u v front back with
  | zero =>
    rw [pow_zero, Nat.div_one] at hv
    exact List.cons_lt_cons_iff.mpr (.inl (ofNat_lt_ofNat (by omega) hv))
  | succ k ih =>
    rw [spread, spread, List.append_assoc, List.append_assoc]
    by_cases hrest : u / 64 < v / 64
    · refine ih hrest ?_ _ _
      rwa [Nat.div_div_eq_div_mul, ← pow_succ']
    · -- the digits before the last one are the same
      have hsame : u / 64 = v / 64 := by omega
      rw [hsame]
      refine List.append_left_lt (List.cons_lt_cons_iff.mpr (.inl ?_))
      exact ofNat_lt_ofNat (by omega) (by omega)

/-! ## Characters -/

/-- How many bytes follow the first one of a character, and the mark of that one. -/
def shape (v : Nat) : Nat × Nat :=
  if v < 128 then (0, 0) else if v < 2048 then (1, 192) else if v < 65536 then (2, 224) else (3, 240)

theorem utf8EncodeChar_eq_spread (c : Char) :
    String.utf8EncodeChar c = spread (shape c.val.toNat).2 (shape c.val.toNat).1 c.val.toNat := by
  have hvalid : c.val.toNat < 55296 ∨ 57343 < c.val.toNat ∧ c.val.toNat < 1114112 := c.valid
  unfold String.utf8EncodeChar
  generalize c.val.toNat = v at hvalid
  dsimp only
  split_ifs with h1 h2 h3
  · have hshape : shape v = (0, 0) := if_pos (by omega)
    rw [hshape]
    rfl
  · have hshape : shape v = (1, 192) := by rw [shape, if_neg (by omega), if_pos (by omega)]
    have hfirst : v / 64 % 32 = v / 64 := Nat.mod_eq_of_lt (by omega)
    rw [hshape, hfirst]
    rfl
  · have hshape : shape v = (2, 224) := by
      rw [shape, if_neg (by omega), if_neg (by omega), if_pos (by omega)]
    have hfirst : v / 4096 % 16 = v / 64 / 64 := by omega
    rw [hshape, hfirst]
    rfl
  · have hshape : shape v = (3, 240) := by
      rw [shape, if_neg (by omega), if_neg (by omega), if_neg (by omega)]
    have hfirst : v / 262144 % 8 = v / 64 / 64 / 64 := by omega
    have hsecond : v / 4096 % 64 = v / 64 / 64 % 64 := by omega
    rw [hshape, hfirst, hsecond]
    rfl

/-- Characters of different lengths differ in the first byte. -/
theorem shape_eq_or_lt {u v : Nat} (h : u < v) (hv : v < 1114112) :
    v / 64 ^ (shape v).1 + (shape v).2 < 256 ∧ (shape u = shape v ∨
      u / 64 ^ (shape u).1 + (shape u).2 < v / 64 ^ (shape v).1 + (shape v).2) := by
  unfold shape
  split_ifs <;> simp <;> omega

/-- The bytes of a lower character are lower, whatever follows. -/
theorem utf8EncodeChar_append_lt {c d : Char} (h : c < d) (front back : List UInt8) :
    String.utf8EncodeChar c ++ front < String.utf8EncodeChar d ++ back := by
  have hd : d.val.toNat < 55296 ∨ 57343 < d.val.toNat ∧ d.val.toNat < 1114112 := d.valid
  have hcd : c.val.toNat < d.val.toNat := h
  obtain ⟨hbound, hsame | hlt⟩ := shape_eq_or_lt hcd (by omega)
  · rw [utf8EncodeChar_eq_spread, utf8EncodeChar_eq_spread, hsame]
    exact spread_append_lt hcd hbound front back
  · obtain ⟨cs, hcs⟩ := spread_eq_cons (shape c.val.toNat).2 (shape c.val.toNat).1 c.val.toNat
    obtain ⟨ds, hds⟩ := spread_eq_cons (shape d.val.toNat).2 (shape d.val.toNat).1 d.val.toNat
    rw [utf8EncodeChar_eq_spread, utf8EncodeChar_eq_spread, hcs, hds]
    exact List.cons_lt_cons_iff.mpr (.inl (ofNat_lt_ofNat hlt hbound))

/-! ## Texts -/

theorem encode_lt {cs ds : List Char} (h : cs < ds) : encode cs < encode ds := by
  induction h with
  | @nil d ds =>
    obtain ⟨bytes, hbytes⟩ := spread_eq_cons (shape d.val.toNat).2 (shape d.val.toNat).1 d.val.toNat
    rw [encode, encode, List.flatMap_cons, utf8EncodeChar_eq_spread, hbytes]
    exact .nil
  | rel h => exact utf8EncodeChar_append_lt h _ _
  | cons h ih => exact List.append_left_lt ih

/-- The bytes of a text. -/
def bytes (s : String) : List UInt8 :=
  encode s.toList

theorem bytes_lt {a b : String} (h : a < b) : bytes a < bytes b :=
  encode_lt (String.lt_iff_toList_lt.mp h)

end Marginalia.Text
