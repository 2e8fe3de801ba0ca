import Marginalia.Text.Utf8
import Mathlib.Data.List.Basic

/-! Bytes of a text read back. A character is read as itself whatever follows it, and a byte put in
front of others adds at most one character to what is read. -/
namespace Marginalia.Text
set_option autoImplicit false

/-! ## Characters by their first byte -/

theorem isTrailing_iff {b : UInt8} : isTrailing b = true ↔ 0x80 ≤ b.toNat ∧ b.toNat ≤ 0xBF := by
  simp [isTrailing, UInt8.le_iff_toNat_le]

theorem decodeFirst_one {a : UInt8} (ha : a.toNat < 0x80) (rest : List UInt8) :
    decodeFirst (a :: rest) = (some (Char.ofNat a.toNat), 1) := by
  simp [decodeFirst.eq_def, UInt8.lt_iff_toNat_lt, ha]

theorem decodeFirst_two {a b : UInt8} (ha : 0xC2 ≤ a.toNat ∧ a.toNat ≤ 0xDF)
    (hb : isTrailing b = true) (rest : List UInt8) :
    decodeFirst (a :: b :: rest) = (some (Char.ofNat (a.toNat % 32 * 64 + payload b)), 2) := by
  have hone : ¬ a.toNat < 128 := by omega
  simp [decodeFirst.eq_def, UInt8.lt_iff_toNat_lt, UInt8.le_iff_toNat_le, hone, ha, hb]

theorem decodeFirst_three {a b c : UInt8} (ha : 0xE0 ≤ a.toNat ∧ a.toNat ≤ 0xEF)
    (hb : secondOfThree a b = true) (hc : isTrailing c = true) (rest : List UInt8) :
    decodeFirst (a :: b :: c :: rest) =
      (some (Char.ofNat ((a.toNat % 16 * 64 + payload b) * 64 + payload c)), 3) := by
  have hone : ¬ a.toNat < 128 := by omega
  have htwo : ¬ a.toNat ≤ 223 := by omega
  simp [decodeFirst.eq_def, UInt8.lt_iff_toNat_lt, UInt8.le_iff_toNat_le, hone, htwo, ha, hb, hc]

theorem decodeFirst_four {a b c d : UInt8} (ha : 0xF0 ≤ a.toNat ∧ a.toNat ≤ 0xF4)
    (hb : secondOfFour a b = true) (hc : isTrailing c = true) (hd : isTrailing d = true)
    (rest : List UInt8) :
    decodeFirst (a :: b :: c :: d :: rest) =
      (some (Char.ofNat (((a.toNat % 8 * 64 + payload b) * 64 + payload c) * 64 + payload d)), 4) := by
  have hone : ¬ a.toNat < 128 := by omega
  have htwo : ¬ a.toNat ≤ 223 := by omega
  have hthree : ¬ a.toNat ≤ 239 := by omega
  simp [decodeFirst.eq_def, UInt8.lt_iff_toNat_lt, UInt8.le_iff_toNat_le, hone, htwo, hthree, ha, hb,
    hc, hd]

/-! ## Bytes of characters -/

theorem toNat_ofNat_of_lt {n : Nat} (h : n < 256) : (UInt8.ofNat n).toNat = n := by
  rw [UInt8.toNat_ofNat', Nat.mod_eq_of_lt h]

theorem isTrailing_ofNat (n : Nat) : isTrailing (UInt8.ofNat (n % 64 + 128)) = true := by
  rw [isTrailing_iff, toNat_ofNat_of_lt (by omega)]
  omega

theorem payload_ofNat (n : Nat) : payload (UInt8.ofNat (n % 64 + 128)) = n % 64 := by
  rw [payload, toNat_ofNat_of_lt (by omega)]
  omega

theorem secondOfThree_iff {a b : UInt8} : secondOfThree a b = true ↔
    isTrailing b = true ∧ (a.toNat = 0xE0 → 0xA0 ≤ b.toNat) ∧ (a.toNat = 0xED → b.toNat ≤ 0x9F) := by
  rw [isTrailing_iff, secondOfThree]
  split_ifs with h1 h2
  · subst h1
    simp [UInt8.le_iff_toNat_le]
    omega
  · subst h2
    simp [UInt8.le_iff_toNat_le]
    omega
  · rw [← UInt8.toNat_inj] at h1 h2
    rw [isTrailing_iff]
    simp at h1 h2
    simp [h1, h2]

theorem secondOfFour_iff {a b : UInt8} : secondOfFour a b = true ↔
    isTrailing b = true ∧ (a.toNat = 0xF0 → 0x90 ≤ b.toNat) ∧ (a.toNat = 0xF4 → b.toNat ≤ 0x8F) := by
  rw [isTrailing_iff, secondOfFour]
  split_ifs with h1 h2
  · subst h1
    simp [UInt8.le_iff_toNat_le]
    omega
  · subst h2
    simp [UInt8.le_iff_toNat_le]
    omega
  · rw [← UInt8.toNat_inj] at h1 h2
    rw [isTrailing_iff]
    simp at h1 h2
    simp [h1, h2]

/-- A character is read from its own bytes, whatever follows them. -/
theorem decodeFirst_encodeChar (c : Char) (rest : List UInt8) :
    decodeFirst (String.utf8EncodeChar c ++ rest) =
      (some c, (String.utf8EncodeChar c).length) := by
  have hvalid : c.val.toNat < 55296 ∨ 57343 < c.val.toNat ∧ c.val.toNat < 1114112 := c.valid
  have hc : Char.ofNat c.val.toNat = c := Char.ofNat_toNat c
  unfold String.utf8EncodeChar
  generalize c.val.toNat = v at hvalid hc
  dsimp only
  split_ifs with h1 h2 h3
  · have ha := toNat_ofNat_of_lt (by omega : v < 256)
    have h := decodeFirst_one (by omega : (UInt8.ofNat v).toNat < 0x80) rest
    rw [ha, hc] at h
    exact h
  · have ha := toNat_ofNat_of_lt (by omega : v / 64 % 32 + 192 < 256)
    have h := decodeFirst_two (by rw [ha]; omega) (isTrailing_ofNat v) rest
    rw [ha, payload_ofNat, (by omega : (v / 64 % 32 + 192) % 32 * 64 + v % 64 = v), hc] at h
    exact h
  · have ha := toNat_ofNat_of_lt (by omega : v / 4096 % 16 + 224 < 256)
    have hb := toNat_ofNat_of_lt (by omega : v / 64 % 64 + 128 < 256)
    have hsecond := secondOfThree_iff.mpr ⟨isTrailing_ofNat (v / 64), by
      rw [ha, hb]
      omega⟩
    have h := decodeFirst_three (by rw [ha]; omega) hsecond (isTrailing_ofNat v) rest
    rw [ha, payload_ofNat, payload_ofNat,
      (by omega : ((v / 4096 % 16 + 224) % 16 * 64 + v / 64 % 64) * 64 + v % 64 = v), hc] at h
    exact h
  · have ha := toNat_ofNat_of_lt (by omega : v / 262144 % 8 + 240 < 256)
    have hb := toNat_ofNat_of_lt (by omega : v / 4096 % 64 + 128 < 256)
    have hsecond := secondOfFour_iff.mpr ⟨isTrailing_ofNat (v / 4096), by
      rw [ha, hb]
      omega⟩
    have h := decodeFirst_four (by rw [ha]; omega) hsecond (isTrailing_ofNat (v / 64))
      (isTrailing_ofNat v) rest
    rw [ha, payload_ofNat, payload_ofNat, payload_ofNat, (by omega :
      (((v / 262144 % 8 + 240) % 8 * 64 + v / 4096 % 64) * 64 + v / 64 % 64) * 64 + v % 64 = v),
      hc] at h
    exact h

/-! ## Reading on -/

theorem decodeEach_encodeChar (c : Char) (rest : List UInt8) :
    decodeEach (String.utf8EncodeChar c ++ rest) = some c :: decodeEach rest := by
  have hfirst := decodeFirst_encodeChar c rest
  have hpos : 0 < (String.utf8EncodeChar c).length := by
    rw [String.length_utf8EncodeChar]
    exact c.utf8Size_pos
  obtain ⟨a, bytes, hbytes⟩ := List.exists_cons_of_length_pos hpos
  rw [hbytes, List.cons_append] at hfirst ⊢
  rw [decodeEach, hfirst]
  simp

theorem decodeLossy_encodeChar (c : Char) (rest : List UInt8) :
    decodeLossy (String.utf8EncodeChar c ++ rest) = c :: decodeLossy rest := by
  rw [decodeLossy, decodeEach_encodeChar]
  rfl

theorem decodeLossy_nil : decodeLossy [] = [] := by
  rw [decodeLossy, decodeEach, List.map_nil]

theorem decodeLossy_encode (cs : List Char) : decodeLossy (encode cs) = cs := by
  induction cs with
  | nil => exact decodeLossy_nil
  | cons c cs ih => rw [encode, List.flatMap_cons, ← encode, decodeLossy_encodeChar, ih]

theorem decodeEach_trailing {b : UInt8} (h : isTrailing b = true) (rest : List UInt8) :
    decodeEach (b :: rest) = none :: decodeEach rest := by
  have hb := isTrailing_iff.mp h
  have hfirst : decodeFirst (b :: rest) = (none, 1) := by
    have hone : ¬ b.toNat < 128 := by omega
    have htwo : ¬ 194 ≤ b.toNat := by omega
    have hthree : ¬ 224 ≤ b.toNat := by omega
    have hfour : ¬ 240 ≤ b.toNat := by omega
    simp [decodeFirst.eq_def, UInt8.lt_iff_toNat_lt, UInt8.le_iff_toNat_le, hone, htwo, hthree,
      hfour]
  rw [decodeEach, hfirst]
  rfl

/-- The bytes that are read together with the one before them are trailing bytes. -/
theorem isTrailing_of_mem_first {bytes : List UInt8} :
    ∀ b ∈ bytes.tail.take ((decodeFirst bytes).2 - 1), isTrailing b = true := by
  fun_cases decodeFirst bytes with
  | case1 => simp
  | _ => simp_all [secondOfThree_iff, secondOfFour_iff]

theorem length_decodeEach_trailing {taken : List UInt8} (h : ∀ b ∈ taken, isTrailing b = true)
    (rest : List UInt8) :
    (decodeEach (taken ++ rest)).length = taken.length + (decodeEach rest).length := by
  induction taken with
  | nil => simp
  | cons b taken ih =>
    rw [List.cons_append, decodeEach_trailing (h b (List.mem_cons_self ..)), List.length_cons,
      ih (fun x hx => h x (List.mem_cons_of_mem b hx)), List.length_cons]
    omega

/-- A byte in front adds at most one character. -/
theorem length_decodeEach_cons_le (a : UInt8) (rest : List UInt8) :
    (decodeEach (a :: rest)).length ≤ (decodeEach rest).length + 1 := by
  have htrailing : ∀ b ∈ rest.take ((decodeFirst (a :: rest)).2 - 1), isTrailing b = true :=
    isTrailing_of_mem_first
  have hrest := length_decodeEach_trailing htrailing (rest.drop ((decodeFirst (a :: rest)).2 - 1))
  rw [List.take_append_drop] at hrest
  rw [decodeEach, List.length_cons, hrest]
  omega

end Marginalia.Text
