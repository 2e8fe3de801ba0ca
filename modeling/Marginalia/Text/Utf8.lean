/-!
Bytes read as UTF-8. A sequence that no character has becomes one replacement character for each of
its longest parts that could still have started a character.
-/

namespace Marginalia.Text

/-- What stands for bytes that are no character. -/
def replacement : Char :=
  Char.ofNat 0xFFFD

/-- May the byte stand after the first one of a character? -/
def isTrailing (b : UInt8) : Bool :=
  0x80 ≤ b && b ≤ 0xBF

/-- May `b` follow `a`, the first byte of a character of three bytes? -/
def secondOfThree (a b : UInt8) : Bool :=
  if a = 0xE0 then 0xA0 ≤ b && b ≤ 0xBF
  else if a = 0xED then 0x80 ≤ b && b ≤ 0x9F
  else isTrailing b

/-- May `b` follow `a`, the first byte of a character of four bytes? -/
def secondOfFour (a b : UInt8) : Bool :=
  if a = 0xF0 then 0x90 ≤ b && b ≤ 0xBF
  else if a = 0xF4 then 0x80 ≤ b && b ≤ 0x8F
  else isTrailing b

/-- The six bits that a trailing byte carries. -/
def payload (b : UInt8) : Nat :=
  b.toNat % 64

/-- The character that the bytes start with, or none, and how many bytes that takes. Bytes that are
no character count as far as they could have been one. -/
def decodeFirst : List UInt8 → Option Char × Nat
  | [] => (none, 1)
  | a :: rest =>
    if a < 0x80 then (some (Char.ofNat a.toNat), 1)
    else if 0xC2 ≤ a && a ≤ 0xDF then
      match rest with
      | b :: _ =>
        if isTrailing b then (some (Char.ofNat (a.toNat % 32 * 64 + payload b)), 2) else (none, 1)
      | [] => (none, 1)
    else if 0xE0 ≤ a && a ≤ 0xEF then
      match rest with
      | b :: rest =>
        if secondOfThree a b then
          match rest with
          | c :: _ =>
            if isTrailing c then
              (some (Char.ofNat ((a.toNat % 16 * 64 + payload b) * 64 + payload c)), 3)
            else (none, 2)
          | [] => (none, 2)
        else (none, 1)
      | [] => (none, 1)
    else if 0xF0 ≤ a && a ≤ 0xF4 then
      match rest with
      | b :: rest =>
        if secondOfFour a b then
          match rest with
          | c :: rest =>
            if isTrailing c then
              match rest with
              | d :: _ =>
                if isTrailing d then
                  (some (Char.ofNat
                    (((a.toNat % 8 * 64 + payload b) * 64 + payload c) * 64 + payload d)), 4)
                else (none, 3)
              | [] => (none, 3)
            else (none, 2)
          | [] => (none, 2)
        else (none, 1)
      | [] => (none, 1)
    else (none, 1)

/-- The characters of the bytes, `none` where there is no character. -/
def decodeEach : List UInt8 → List (Option Char)
  | [] => []
  | a :: rest =>
    let (c, size) := decodeFirst (a :: rest)
    c :: decodeEach (rest.drop (size - 1))
  termination_by bytes => bytes.length
  decreasing_by rw [List.length_drop, List.length_cons]; omega

/-- The text of the bytes, with replacement characters. -/
def decodeLossy (bytes : List UInt8) : List Char :=
  (decodeEach bytes).map (·.getD replacement)

/-- The text of the bytes, if they are all characters. -/
def decode? (bytes : List UInt8) : Option (List Char) :=
  (decodeEach bytes).mapM id

/-- The bytes of a text. -/
def encode (cs : List Char) : List UInt8 :=
  cs.flatMap String.utf8EncodeChar

end Marginalia.Text
