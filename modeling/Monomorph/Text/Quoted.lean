import Monomorph.Text.Printable

/-!
Quoted text for messages. A text stands between single quotes, or between double quotes if it holds
a single quote and no double one; what has no visible form is escaped.
-/

namespace Monomorph.Text

/-- A number in base sixteen with at least `width` digits. -/
def hexDigits (width n : Nat) : List Char :=
  let ds := Nat.toDigits 16 n
  List.replicate (width - ds.length) '0' ++ ds

/-- The escape of a code point. -/
def pointEscape (n : Nat) : List Char :=
  if n < 0x100 then '\\' :: 'x' :: hexDigits 2 n
  else if n < 0x10000 then '\\' :: 'u' :: hexDigits 4 n
  else '\\' :: 'U' :: hexDigits 8 n

/-- One character between the given quotes. -/
def quotedChar (quote c : Char) : List Char :=
  if c == quote || c == '\\' then ['\\', c]
  else if c == '\n' then ['\\', 'n']
  else if c == '\r' then ['\\', 'r']
  else if c == '\t' then ['\\', 't']
  else if isPrintable c then [c]
  else pointEscape c.toNat

/-- The quote for a text. -/
def quoteFor (s : List Char) : Char := if s.contains '\'' && !s.contains '"' then '"' else '\''

/-- A text between quotes. -/
def shown (s : String) : String :=
  let cs := s.toList
  let q := quoteFor cs
  String.ofList (q :: (cs.flatMap (quotedChar q) ++ [q]))

/-- Is the number a surrogate code point? -/
def isSurrogate (n : Nat) : Bool := 0xd800 ≤ n && n < 0xe000

/-- The character of a code point; of a surrogate, the one that replaces what is no character. -/
def charOf (n : Nat) : Char := if isSurrogate n then Char.ofNat 0xfffd else Char.ofNat n

/-- A text between quotes that is given by its code points. Surrogates are escaped. -/
def shownPoints (points : List Nat) : String :=
  let q := quoteFor (points.map charOf)
  let part (n : Nat) : List Char := if isSurrogate n then pointEscape n else quotedChar q (charOf n)
  String.ofList (q :: (points.flatMap part ++ [q]))

end Monomorph.Text
