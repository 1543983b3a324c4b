import Monomorph.Number.Digits

/-!
Bytes written as pairs of hexadecimal digits.
-/

namespace Monomorph.Text.Hex

/-- The lower-case digit of a value below sixteen. -/
def digit (n : Nat) : Char := if n < 10 then Char.ofNat (48 + n) else Char.ofNat (87 + n)

/-- The two digits of a byte. -/
def ofByte (b : UInt8) : List Char := [digit (b.toNat / 16), digit (b.toNat % 16)]

/-- The digits of some bytes. -/
def encode (bytes : List UInt8) : String := String.ofList (bytes.flatMap ofByte)

/-- The bytes that pairs of digits write. -/
def decodeChars : List Char → Option (List UInt8)
  | [] => some []
  | [_] => none
  | a :: b :: r => do
    return UInt8.ofNat ((← Digits.value? a) * 16 + (← Digits.value? b)) :: (← decodeChars r)

/-- The bytes that a text of digits writes. -/
def decode? (s : String) : Option ByteArray :=
  (decodeChars s.toList).map fun bytes => ⟨bytes.toArray⟩

end Monomorph.Text.Hex
