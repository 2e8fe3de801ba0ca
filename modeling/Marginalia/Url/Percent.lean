import Marginalia.Text.Utf8

/-!
Percent coding: a byte written as `%` and two hexadecimal digits.
-/

namespace Marginalia.Url
open Marginalia.Text

/-- The value of a hexadecimal digit. -/
def hexValue? (c : Char) : Option Nat :=
  if '0' ≤ c && c ≤ '9' then some (c.toNat - 48)
  else if 'a' ≤ c && c ≤ 'f' then some (c.toNat - 87)
  else if 'A' ≤ c && c ≤ 'F' then some (c.toNat - 55)
  else none

/-- The upper-case hexadecimal digit of a value below sixteen. -/
def upperHex (n : Nat) : Char :=
  Char.ofNat (if n < 10 then 48 + n else 55 + n)

/-- The byte that two hexadecimal digits stand for. -/
def hexByte? (a b : Char) : Option UInt8 := do
  let x ← hexValue? a
  let y ← hexValue? b
  return UInt8.ofNat (16 * x + y)

/-- The bytes of a text in which `%` and two hexadecimal digits stand for a byte. A `%` that two
such digits do not follow stands for itself. -/
def percentBytes : List Char → List UInt8
  | [] => []
  | '%' :: a :: b :: rest =>
    match hexByte? a b with
    | some byte => byte :: percentBytes rest
    | none => String.utf8EncodeChar '%' ++ percentBytes (a :: b :: rest)
  | c :: rest => String.utf8EncodeChar c ++ percentBytes rest

/-- The text that a percent-coded text stands for. -/
def percentDecode (cs : List Char) : List Char :=
  decodeLossy (percentBytes cs)

/-- A byte as `%` and two digits. -/
def percentByte (b : UInt8) : List Char :=
  ['%', upperHex (b.toNat / 16), upperHex (b.toNat % 16)]

end Marginalia.Url
