/-!
Text in files. A file holds text if its bytes are the UTF-8 form of some characters; if they are
not, the first byte that starts no character is named.
-/

namespace Monomorph.Text.Utf8

/-- A byte at which no character starts. -/
structure BadByte where
  offset : Nat
  value : UInt8
  deriving DecidableEq, Repr

/-- The offset of the first byte from `start` on at which no character starts, looking at no more
than `steps` characters. -/
def badOffset (bytes : ByteArray) (start : Nat) : Nat → Nat
  | 0 => start
  | steps + 1 =>
    match bytes.utf8DecodeChar? start with
    | some c => badOffset bytes (start + c.utf8Size) steps
    | none => start

/-- The bytes of a text. -/
def encode (s : String) : ByteArray := s.toUTF8

/-- The text of some bytes. -/
def decode (bytes : ByteArray) : Except BadByte String :=
  match String.fromUTF8? bytes with
  | some s => .ok s
  | none =>
    let offset := badOffset bytes 0 bytes.size
    .error ⟨offset, bytes.data.getD offset 0⟩

/-- Reading what was written gives the text back. -/
theorem decode_encode (s : String) : decode (encode s) = .ok s := by
  have h : String.fromUTF8? s.toUTF8 = some s := by
    rw [String.fromUTF8?, String.toUTF8_eq_toByteArray, dif_pos s.isValidUTF8]
    rfl
  rw [decode, encode, h]

end Monomorph.Text.Utf8
