import Monomorph.Text.Blank

/-!
Digits and the numbers they write, in any base up to sixteen and, for decimal digits, in any script.
-/

namespace Monomorph.Digits

/-- The value of a hexadecimal digit. -/
def value? (c : Char) : Option Nat :=
  if '0' ≤ c ∧ c ≤ '9' then some (c.toNat - 48)
  else if 'a' ≤ c ∧ c ≤ 'f' then some (c.toNat - 87)
  else if 'A' ≤ c ∧ c ≤ 'F' then some (c.toNat - 55)
  else none

/-- Is the character a digit of this base? -/
def isIn (base : Nat) (c : Char) : Bool :=
  match value? c with
  | some v => v < base
  | none => false

/-- Digits with single underscores between them, and the rest. -/
def run (isDigit : Char → Bool) : List Char → List Char × List Char
  | [] => ([], [])
  | c :: '_' :: d :: r =>
    if !isDigit c then ([], c :: '_' :: d :: r)
    else if isDigit d then
      let p := run isDigit (d :: r)
      (c :: p.1, p.2)
    else ([c], '_' :: d :: r)
  | c :: r =>
    if !isDigit c then ([], c :: r)
    else
      let p := run isDigit r
      (c :: p.1, p.2)

/-- The number that digits write in a base. -/
def number (base : Nat) (ds : List Char) : Nat :=
  ds.foldl (fun n c => n * base + (value? c).getD 0) 0

/-- The most digits that a decimal integer may have. -/
def most : Nat := 4300

/-- The ASCII digit of the same value as a decimal digit of any script. Each script's ten digits
start at a bound that is listed for them. -/
def toAscii (c : Char) : Char :=
  if c.toNat < 128 || !Text.isDecimal c then c
  else
    let start := (Text.decimalBounds.filter (· ≤ c.toNat)).getLast?.getD 0
    Char.ofNat (48 + (c.toNat - start) % 10)

/-- A blank that may stand around an integer: any but the four separators U+001C to U+001F. -/
def isPadding (c : Char) : Bool := Text.isBlank c && !(28 ≤ c.toNat && c.toNat < 32)

/-- The integer that a text writes: blanks around it, perhaps a sign, and decimal digits of any
script with single underscores between them. -/
def int? (s : String) : Option Int :=
  let unsigned? (r : List Char) : Option Nat :=
    let (ds, rest) := run Char.isDigit r
    if ds.isEmpty || !rest.isEmpty || most < ds.length then none else some (number 10 ds)
  match (Text.trimBy isPadding s.toList).map toAscii with
  | '-' :: r => (unsigned? r).map fun n => -(n : Int)
  | '+' :: r => (unsigned? r).map Int.ofNat
  | r => (unsigned? r).map Int.ofNat

end Monomorph.Digits
