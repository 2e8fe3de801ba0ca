import Marginalia.Proofs.Text.Start

/-! Offsets into a text counted in bytes. A text can be cut at an offset only where one character ends
and the next one starts; those are the offsets that belong to a number of characters. -/
namespace Marginalia.Text
set_option autoImplicit false

/-! ## Sizes -/

/-- How many bytes the text takes. -/
def byteSize (cs : List Char) : Nat :=
  (String.ofList cs).utf8ByteSize

theorem byteSize_append (front back : List Char) :
    byteSize (front ++ back) = byteSize front + byteSize back := by
  rw [byteSize, String.ofList_append, String.utf8ByteSize_append, byteSize, byteSize]

theorem byteSize_nil : byteSize [] = 0 := rfl

theorem byteSize_singleton (c : Char) : byteSize [c] = c.utf8Size := by
  rw [byteSize, ← String.singleton_eq_ofList, String.utf8ByteSize_singleton]

theorem byteSize_cons (c : Char) (cs : List Char) : byteSize (c :: cs) = c.utf8Size + byteSize cs := by
  rw [← List.singleton_append, byteSize_append, byteSize_singleton]

theorem byteSize_pos {cs : List Char} (h : cs ≠ []) : 0 < byteSize cs := by
  obtain ⟨c, cs, rfl⟩ := List.exists_cons_of_ne_nil h
  rw [byteSize_cons]
  exact Nat.add_pos_left c.utf8Size_pos _

/-- Of two texts that one text starts with, the longer one is the one of more bytes. -/
theorem byteSize_lt_iff {cs short long : List Char} (hs : short <+: cs) (hl : long <+: cs) :
    byteSize short < byteSize long ↔ short.length < long.length := by
  obtain h | h := List.prefix_or_prefix_of_prefix hs hl
  · obtain ⟨more, rfl⟩ := h
    rw [byteSize_append, List.length_append]
    cases more with
    | nil => simp [byteSize_nil]
    | cons c more =>
      have hpos := byteSize_pos (List.cons_ne_nil c more)
      rw [List.length_cons]
      omega
  · obtain ⟨more, rfl⟩ := h
    rw [byteSize_append, List.length_append]
    omega

/-! ## Cutting at an offset -/

/-- What stands before an offset and what stands behind it. An offset inside a character or beyond the
end cuts nothing. -/
def splitAt? : Nat → List Char → Option (List Char × List Char)
  | 0, cs => some ([], cs)
  | _ + 1, [] => none
  | n + 1, c :: cs =>
    if c.utf8Size ≤ n + 1 then
      (splitAt? (n + 1 - c.utf8Size) cs).map fun p => (c :: p.1, p.2)
    else none

/-- The text from an offset on. -/
def from? (start : Nat) (cs : List Char) : Option (List Char) :=
  (splitAt? start cs).map (·.2)

/-- The text from one offset to before another one. -/
def slice? (start stop : Nat) (cs : List Char) : Option (List Char) :=
  (splitAt? stop cs).bind fun p => from? start p.1

/-- The difference, where it is not negative. -/
def minus? (m n : Nat) : Option Nat :=
  if n ≤ m then some (m - n) else none

theorem minus?_of_le {m n : Nat} (h : n ≤ m) : minus? m n = some (m - n) :=
  if_pos h

/-- A text is cut exactly at the sizes of what it starts with. -/
theorem splitAt?_eq_some_iff {n : Nat} {cs front back : List Char} :
    splitAt? n cs = some (front, back) ↔ n = byteSize front ∧ cs = front ++ back := by
  constructor
  · intro h
    induction cs generalizing n front with
    | nil =>
      cases n with
      | zero =>
        cases h
        exact ⟨rfl, rfl⟩
      | succ n => cases h
    | cons c cs ih =>
      cases n with
      | zero =>
        cases h
        exact ⟨rfl, rfl⟩
      | succ n =>
        rw [splitAt?] at h
        split at h
        next hle =>
          obtain ⟨⟨front, back⟩, hsplit, he⟩ := Option.map_eq_some_iff.mp h
          rw [Prod.mk.injEq] at he
          obtain ⟨rfl, rfl⟩ := he
          obtain ⟨hn, rfl⟩ := ih hsplit
          exact ⟨by rw [byteSize_cons, ← hn]; omega, rfl⟩
        next => cases h
  · rintro ⟨rfl, rfl⟩
    induction front with
    | nil => simp [byteSize_nil, splitAt?]
    | cons c front ih =>
      obtain ⟨n, hn⟩ := Nat.exists_eq_add_of_lt (byteSize_pos (List.cons_ne_nil c front))
      have hsize := byteSize_cons c front
      have hrest : 0 + n + 1 - c.utf8Size = byteSize front := by omega
      rw [hn, List.cons_append, splitAt?, if_pos (by omega), hrest, ih]
      rfl

example : from? 1 ['é'] = none := by decide

/-! ## Offsets of characters -/

/-- The offset behind so many characters. -/
def offset (cs : List Char) (k : Nat) : Nat :=
  byteSize (cs.take k)

theorem offset_zero (cs : List Char) : offset cs 0 = 0 := rfl

theorem offset_one (c : Char) (cs : List Char) : offset (c :: cs) 1 = c.utf8Size :=
  byteSize_singleton c

theorem offset_length (cs : List Char) : offset cs cs.length = byteSize cs := by
  rw [offset, List.take_length]

theorem offset_add (cs : List Char) (k n : Nat) :
    offset cs (k + n) = offset cs k + offset (cs.drop k) n := by
  rw [offset, List.take_add, byteSize_append]
  rfl

theorem offset_le {cs : List Char} {i j : Nat} (h : i ≤ j) : offset cs i ≤ offset cs j := by
  obtain ⟨n, rfl⟩ := Nat.exists_eq_add_of_le h
  rw [offset_add]
  exact Nat.le_add_right _ _

theorem offset_lt_iff {cs : List Char} {k : Nat} : offset cs k < byteSize cs ↔ k < cs.length := by
  nth_rewrite 2 [← List.take_append_drop k cs]
  rw [byteSize_append]
  constructor
  · intro h
    by_contra hle
    rw [List.drop_eq_nil_of_le (by omega), byteSize_nil] at h
    exact absurd h (lt_irrefl _)
  · intro h
    exact Nat.lt_add_of_pos_right (byteSize_pos (by simpa using h))

theorem offset_mark {mark cs : List Char} {k : Nat} (h : startsWith mark (cs.drop k) = true) :
    offset cs k + byteSize mark = offset cs (k + mark.length) := by
  obtain ⟨rest, hrest⟩ := startsWith_iff.mp h
  rw [offset_add, ← hrest, offset, offset, List.take_left]

theorem splitAt?_offset (cs : List Char) (k : Nat) :
    splitAt? (offset cs k) cs = some (cs.take k, cs.drop k) := by
  rw [splitAt?_eq_some_iff, List.take_append_drop]
  exact ⟨rfl, rfl⟩

theorem from?_offset (cs : List Char) (k : Nat) : from? (offset cs k) cs = some (cs.drop k) := by
  rw [from?, splitAt?_offset]
  rfl

theorem offset_take {cs : List Char} {i j : Nat} (h : i ≤ j) : offset (cs.take j) i = offset cs i := by
  rw [offset, List.take_take, min_eq_left h, offset]

theorem slice?_offset {cs : List Char} {i j : Nat} (h : i ≤ j) :
    slice? (offset cs i) (offset cs j) cs = some ((cs.take j).drop i) := by
  rw [slice?, splitAt?_offset, Option.bind_some, ← offset_take h, from?_offset]

end Marginalia.Text
