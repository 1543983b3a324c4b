/-!
Double-precision numbers as values of their own: a sign and a magnitude `m * 2 ^ q`, an infinity, or
no number at all. A ratio of naturals is rounded to the nearest double, a tie to the even mantissa,
in exact integer arithmetic.
-/

namespace Monomorph

/-- A double-precision number. A finite magnitude is `mantissa * 2 ^ exponent`, where either the
mantissa has 53 bits or the exponent is the least one, -1074. -/
inductive Double where
  | finite (negative : Bool) (mantissa : Nat) (exponent : Int)
  | infinite (negative : Bool)
  | nan
  deriving DecidableEq, Repr

namespace Double

/-- The quotient rounded to the nearest natural, a half to the even one. -/
def divNearest (num den : Nat) : Nat :=
  let q := num / den
  let r := num % den
  if 2 * r < den then q else if 2 * r > den then q + 1 else q + q % 2

/-- `num * 2 ^ -e` as a quotient of naturals, given `num / den`. -/
def scaled (num den : Nat) (e : Int) : Nat × Nat :=
  if e < 0 then (num * Nat.pow 2 (-e).toNat, den) else (num, den * Nat.pow 2 e.toNat)

/-- The exponent at which a positive ratio has a mantissa of 53 bits, or the least exponent. -/
def exponentOf (num den : Nat) : Int :=
  let e := max ((num.log2 : Int) - (den.log2 : Int) - 53) (-1074)
  let s := scaled num den e
  if s.1 / s.2 < Nat.pow 2 53 then e else e + 1

/-- The double nearest to the ratio `num / den`. -/
def ofRatio (negative : Bool) (num den : Nat) : Double :=
  if num = 0 then finite negative 0 (-1074)
  else
    let e := exponentOf num den
    let s := scaled num den e
    let m := divNearest s.1 s.2
    let (m, e) := if m = Nat.pow 2 53 then (Nat.pow 2 52, e + 1) else (m, e)
    if e > 971 then infinite negative else finite negative m e

/-- The double nearest to `digits * 10 ^ exponent`. Powers of ten far outside the range of doubles
are decided by the number of digits alone. -/
def ofDecimal (negative : Bool) (digits : Nat) (exponent : Int) : Double :=
  let size : Int := (digits.log2 : Int) / 3 + 1
  if digits = 0 then finite negative 0 (-1074)
  else if exponent > 310 then infinite negative
  else if exponent + size < -400 then finite negative 0 (-1074)
  else if exponent < 0 then ofRatio negative digits (Nat.pow 10 (-exponent).toNat)
  else ofRatio negative (digits * Nat.pow 10 exponent.toNat) 1

/-- The double nearest to an integer. -/
def ofInt (n : Int) : Double := ofRatio (n < 0) n.natAbs 1

/-- Has the number a minus sign? -/
def isNegative : Double → Bool
  | finite s _ _ => s
  | infinite s => s
  | nan => false

/-- The number with the other sign. -/
def neg : Double → Double
  | finite s m e => finite (!s) m e
  | infinite s => infinite (!s)
  | nan => nan

/-- Is the number a zero of either sign? -/
def isZero : Double → Bool
  | finite _ m _ => m == 0
  | _ => false

/-- The number plus a positive zero, which turns the negative zero into the positive one. -/
def addZero (x : Double) : Double := if x.isZero then finite false 0 (-1074) else x

/-- Does the number equal this integer? -/
def equalsInt (x : Double) (n : Int) : Bool :=
  match x with
  | finite s m e =>
    let (a, b) := scaled n.natAbs 1 e
    a == m * b && (m == 0 || s == decide (n < 0))
  | _ => false

/-- Numeric equality: the two zeros are equal, and `nan` equals nothing. -/
def numEq : Double → Double → Bool
  | finite s m e, finite t n f => (m == 0 && n == 0) || (s == t && m == n && e == f)
  | infinite s, infinite t => s == t
  | _, _ => false

end Double

end Monomorph
