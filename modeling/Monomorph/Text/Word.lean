import Monomorph.Text.Letter

/-!
Character classes of source text: decimal digits, word characters, blanks and identifiers.
ASCII is decided directly; the tables of `Monomorph.Text.Letter` answer for everything else.
-/

namespace Monomorph.Text

/-- A decimal digit of any script. -/
def isDecimal (c : Char) : Bool :=
  if c.toNat < 128 then c.isDigit else inBounds decimalBounds c

/-- A letter or numeral of any script. -/
def isAlphanumeric (c : Char) : Bool :=
  if c.toNat < 128 then c.isAlphanum
  else inBounds letterBounds c || inBounds numeralBounds c

/-- A word character: a letter, a numeral or the underscore. -/
def isWord (c : Char) : Bool := isAlphanumeric c || c == '_'

/-- White space: the ASCII blanks, the four separators U+001C to U+001F, the next-line and no-break
characters, and the Unicode space, line and paragraph separators. -/
def isBlank (c : Char) : Bool :=
  let n := c.toNat
  (9 ≤ n && n ≤ 13) || (28 ≤ n && n ≤ 32) || n == 0x85 || n == 0xa0 || n == 0x1680 ||
  (0x2000 ≤ n && n ≤ 0x200a) || n == 0x2028 || n == 0x2029 || n == 0x202f || n == 0x205f ||
  n == 0x3000

/-- A character at which a line of prose ends. -/
def isLineBreak (c : Char) : Bool :=
  let n := c.toNat
  (10 ≤ n && n ≤ 13) || (28 ≤ n && n ≤ 30) || n == 0x85 || n == 0x2028 || n == 0x2029

/-- The first character of an identifier in the ASCII alphabet. -/
def isAsciiStart (c : Char) : Bool := c.isAlpha || c == '_'

/-- Compatibility letters whose decomposition does not start like an identifier. -/
def brokenStarts : List Nat := [
  0x37a, 0xe33, 0xeb3, 0x2e2f, 0xfc5e, 0xfc5f, 0xfc60, 0xfc61, 0xfc62, 0xfc63, 0xfdfa, 0xfdfb,
  0xfe70, 0xfe72, 0xfe74, 0xfe76, 0xfe78, 0xfe7a, 0xfe7c, 0xfe7e, 0xff9e, 0xff9f]

/-- Characters that are no letters but may start an identifier for historical reasons. -/
def extraStarts : List Nat := [0x1885, 0x1886, 0x2118, 0x212e]

/-- Connectors and other characters that may continue an identifier although they are neither
letters, letter numbers, marks nor decimal digits. -/
def extraContinues : List Nat := [
  0xb7, 0x387, 0xe33, 0xeb3, 0x1369, 0x136a, 0x136b, 0x136c, 0x136d, 0x136e, 0x136f, 0x1370, 0x1371,
  0x19da, 0x203f, 0x2040, 0x2054, 0xfe33, 0xfe34, 0xfe4d, 0xfe4e, 0xfe4f, 0xff3f, 0xff9e, 0xff9f]

/-- The first character of an identifier in any script. -/
def isIdentifierStart (c : Char) : Bool :=
  if c.toNat < 128 then isAsciiStart c
  else (inBounds letterBounds c || inBounds letterNumberBounds c || extraStarts.contains c.toNat)
    && !brokenStarts.contains c.toNat

/-- A later character of an identifier in any script. -/
def isIdentifierPart (c : Char) : Bool :=
  if c.toNat < 128 then isAsciiStart c || c.isDigit
  else isIdentifierStart c || inBounds markBounds c || inBounds decimalBounds c ||
    extraContinues.contains c.toNat

/-- A non-empty text that starts like an identifier and goes on like one. -/
def isIdentifier (s : String) : Bool :=
  match s.toList with
  | [] => false
  | c :: r => isIdentifierStart c && r.all isIdentifierPart

/-- A text of ASCII characters only. -/
def isAscii (s : String) : Bool := s.toList.all (·.toNat < 128)

/-- Words of the host interpreter's grammar, which can name neither a function nor an argument. -/
def keywords : List String := [
  "False", "None", "True", "and", "as", "assert", "async", "await", "break", "class", "continue",
  "def", "del", "elif", "else", "except", "finally", "for", "from", "global", "if", "import", "in",
  "is", "lambda", "nonlocal", "not", "or", "pass", "raise", "return", "try", "while", "with",
  "yield"]

/-- A name that the host interpreter accepts for a function or an argument. -/
def isBindingName (s : String) : Bool := isIdentifier s && isAscii s && !keywords.contains s

end Monomorph.Text
