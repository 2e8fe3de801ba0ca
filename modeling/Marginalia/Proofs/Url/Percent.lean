import Marginalia.Proofs.Text.Utf8
import Marginalia.Text.Basic
import Marginalia.Url.Percent

/-! Percent coding and its reading. Decoding leaves a text as it is or makes it shorter, and it takes
an encoded text back to the text. -/
namespace Marginalia.Url
open Marginalia.Text
set_option autoImplicit false

/-! ## Decoding -/

theorem percentDecode_nil : percentDecode [] = [] := by
  rw [percentDecode, percentBytes, decodeLossy_nil]

theorem percentBytes_plain {c : Char} (h : c ≠ '%') (cs : List Char) :
    percentBytes (c :: cs) = String.utf8EncodeChar c ++ percentBytes cs := by
  rw [percentBytes]
  intro a b rest hc
  exact absurd hc h

theorem percentDecode_plain {front : List Char} (h : '%' ∉ front) (cs : List Char) :
    percentDecode (front ++ cs) = front ++ percentDecode cs := by
  induction front with
  | nil => rfl
  | cons c front ih =>
    simp only [List.mem_cons, not_or] at h
    have hc : percentDecode (c :: (front ++ cs)) = c :: percentDecode (front ++ cs) := by
      rw [percentDecode, percentBytes_plain (Ne.symm h.1), decodeLossy_encodeChar, ← percentDecode]
    rw [List.cons_append, hc, ih h.2, List.cons_append]

theorem percentBytes_ne_nil {cs : List Char} (h : cs ≠ []) : percentBytes cs ≠ [] := by
  have hchar : ∀ c, String.utf8EncodeChar c ≠ [] := by
    intro c hc
    have hl := String.length_utf8EncodeChar c
    rw [hc] at hl
    exact absurd hl.symm (Nat.ne_of_gt c.utf8Size_pos)
  fun_cases percentBytes cs with
  | case1 => exact absurd rfl h
  | case2 => simp
  | case3 => simp [hchar]
  | case4 => simp [hchar]

theorem percentDecode_eq_nil_iff {cs : List Char} : percentDecode cs = [] ↔ cs = [] := by
  constructor
  · intro h
    by_contra hne
    obtain ⟨byte, bytes, hb⟩ := List.exists_cons_of_ne_nil (percentBytes_ne_nil hne)
    rw [percentDecode, hb, decodeLossy, decodeEach] at h
    simp at h
  · rintro rfl
    exact percentDecode_nil

/-- Every pair of digits that is decoded shortens the text. -/
theorem percentDecode_eq_or_shorter (cs : List Char) :
    percentDecode cs = cs ∨ (percentDecode cs).length < cs.length := by
  rw [percentDecode]
  fun_induction percentBytes cs with
  | case1 => exact .inl decodeLossy_nil
  | case2 a b rest byte hbyte ih =>
    refine .inr ?_
    have hle := length_decodeEach_cons_le byte (percentBytes rest)
    have hrest : (decodeEach (percentBytes rest)).length ≤ rest.length := by
      have hlength : (decodeLossy (percentBytes rest)).length =
          (decodeEach (percentBytes rest)).length := List.length_map _
      rw [← hlength]
      rcases ih with he | hlt
      · exact Nat.le_of_eq (congrArg List.length he)
      · exact Nat.le_of_lt hlt
    rw [decodeLossy, List.length_map, List.length_cons, List.length_cons, List.length_cons]
    omega
  | case3 a b rest hnone ih =>
    rw [decodeLossy_encodeChar]
    rcases ih with he | hlt
    · exact .inl (by rw [he])
    · exact .inr (Nat.succ_lt_succ hlt)
  | case4 c rest hc ih =>
    rw [decodeLossy_encodeChar]
    rcases ih with he | hlt
    · exact .inl (by rw [he])
    · exact .inr (Nat.succ_lt_succ hlt)

/-! ## Encoding -/

/-- Is the character one that an encoded path keeps: a letter, a digit, or one of `-._~/`? -/
def isKept (c : Char) : Bool :=
  c.isAlphanum || c = '-' || c = '.' || c = '_' || c = '~' || c = '/'

/-- A byte as an encoded path writes it. -/
def encodeByte (b : UInt8) : List Char :=
  if isKept (Char.ofNat b.toNat) then [Char.ofNat b.toNat] else percentByte b

/-- The path with all bytes but those of the kept characters percent-coded. -/
def encodePath (path : String) : String :=
  String.ofList ((encode path.toList).flatMap encodeByte)

theorem hexValue?_upperHex : ∀ n < 16, hexValue? (upperHex n) = some n := by
  decide

theorem percentBytes_percentByte (b : UInt8) (cs : List Char) :
    percentBytes (percentByte b ++ cs) = b :: percentBytes cs := by
  have hlt : b.toNat < 256 := b.toNat_lt
  have hbyte : hexByte? (upperHex (b.toNat / 16)) (upperHex (b.toNat % 16)) = some b := by
    rw [hexByte?, hexValue?_upperHex _ (by omega), hexValue?_upperHex _ (by omega)]
    show some (UInt8.ofNat (16 * (b.toNat / 16) + b.toNat % 16)) = some b
    rw [Nat.div_add_mod, UInt8.ofNat_toNat]
  show percentBytes ('%' :: upperHex (b.toNat / 16) :: upperHex (b.toNat % 16) :: cs) = _
  rw [percentBytes, hbyte]

theorem percentBytes_encodeByte (b : UInt8) (cs : List Char) :
    percentBytes (encodeByte b ++ cs) = b :: percentBytes cs := by
  have hkept : ∀ n < 256, isKept (Char.ofNat n) = true →
      Char.ofNat n ≠ '%' ∧ String.utf8EncodeChar (Char.ofNat n) = [UInt8.ofNat n] := by
    decide +kernel
  rw [encodeByte]
  split
  next h =>
    obtain ⟨hne, hbytes⟩ := hkept b.toNat b.toNat_lt h
    rw [List.singleton_append, percentBytes_plain hne, hbytes, UInt8.ofNat_toNat,
      List.singleton_append]
  next => exact percentBytes_percentByte b cs

/-- An encoded path is decoded to the path. -/
theorem percentDecode_encodePath (path : String) :
    percentDecode (encodePath path).toList = path.toList := by
  have hbytes : ∀ bytes : List UInt8, percentBytes (bytes.flatMap encodeByte) = bytes := by
    intro bytes
    induction bytes with
    | nil => rfl
    | cons b bytes ih => rw [List.flatMap_cons, percentBytes_encodeByte, ih]
  rw [encodePath, String.toList_ofList, percentDecode, hbytes, decodeLossy_encode]

theorem mem_encodePath {path : String} {c : Char} (h : c ∈ (encodePath path).toList) :
    isKept c = true ∨ c = '%' := by
  have hall : ∀ n < 256,
      (encodeByte (UInt8.ofNat n)).all (fun c => isKept c || c = '%') = true := by
    decide +kernel
  rw [encodePath, String.toList_ofList, List.mem_flatMap] at h
  obtain ⟨b, -, hc⟩ := h
  have hb := hall b.toNat b.toNat_lt
  rw [UInt8.ofNat_toNat, List.all_eq_true] at hb
  simpa using hb c hc

theorem isKept_ascii {c : Char} (h : isKept c = true) : c.toNat < 128 := by
  simp only [isKept, Bool.or_eq_true, decide_eq_true_eq] at h
  rcases h with ((((h | rfl) | rfl) | rfl) | rfl) | rfl
  · delta Char.isAlphanum Char.isAlpha Char.isUpper Char.isLower Char.isDigit at h
    simp only [Bool.or_eq_true, Bool.and_eq_true, decide_eq_true_eq, UInt32.le_iff_toNat_le,
      ge_iff_le] at h
    have hc : c.toNat = c.val.toNat := rfl
    have hZ : 'Z'.val.toNat = 90 := rfl
    have hz : 'z'.val.toNat = 122 := rfl
    have h9 : '9'.val.toNat = 57 := rfl
    omega
  all_goals decide

/-- Kept characters and the percent sign are no blanks and mean nothing in a destination. -/
theorem isKept_ordinary {c : Char} (h : isKept c = true ∨ c = '%') :
    isBlank c = false ∧ c ≠ '#' ∧ c ≠ '?' ∧ c ≠ ':' ∧ c ≠ '\\' := by
  have hlt : c.toNat < 128 := by
    rcases h with h | rfl
    · exact isKept_ascii h
    · decide
  have hall : ∀ n < 128, (isKept (Char.ofNat n) = true ∨ Char.ofNat n = '%') →
      isBlank (Char.ofNat n) = false ∧ Char.ofNat n ≠ '#' ∧ Char.ofNat n ≠ '?' ∧
        Char.ofNat n ≠ ':' ∧ Char.ofNat n ≠ '\\' := by
    decide +kernel
  rw [← Char.ofNat_toNat c] at h ⊢
  exact hall c.toNat hlt h

end Marginalia.Url
