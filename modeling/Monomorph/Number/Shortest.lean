import Monomorph.Number.Double

/-!
The decimal text of a double: the fewest digits that read back to it, and of those the nearest. The
numbers that round to `m * 2 ^ q` form an interval, ends included exactly when `m` is even. For one,
two, … digits the value has two neighbours on the grid of decimals with so many digits; the first
grid with a neighbour in the interval gives the digits.
-/

namespace Monomorph.Double

/-- A positive ratio compared through cross products. -/
structure Ratio where
  num : Nat
  den : Nat

namespace Ratio

/-- Multiplication by a power of two. -/
def scale2 (r : Ratio) (e : Int) : Ratio :=
  if e < 0 then ⟨r.num, r.den * Nat.pow 2 (-e).toNat⟩ else ⟨r.num * Nat.pow 2 e.toNat, r.den⟩

/-- Multiplication by a power of ten. -/
def scale10 (r : Ratio) (e : Int) : Ratio :=
  if e < 0 then ⟨r.num, r.den * Nat.pow 10 (-e).toNat⟩ else ⟨r.num * Nat.pow 10 e.toNat, r.den⟩

/-- Strictly smaller. -/
def lt (a b : Ratio) : Bool := a.num * b.den < b.num * a.den

/-- Smaller or equal. -/
def le (a b : Ratio) : Bool := a.num * b.den ≤ b.num * a.den

end Ratio

/-- Does the decimal `r` round to the double with mantissa `m` and exponent `q`? The gap below the
least mantissa of 53 bits is half as wide as the gap above, except at the least exponent. -/
def readsBack (m : Nat) (q : Int) (r : Ratio) : Bool :=
  let low : Ratio :=
    if m = Nat.pow 2 52 ∧ q > -1074 then Ratio.scale2 ⟨4 * m - 1, 1⟩ (q - 2)
    else Ratio.scale2 ⟨2 * m - 1, 1⟩ (q - 1)
  let high : Ratio := Ratio.scale2 ⟨2 * m + 1, 1⟩ (q - 1)
  if m % 2 = 0 then low.le r && r.le high else low.lt r && r.lt high

/-- Digits and the power of ten of the last digit. -/
structure Decimal where
  digits : Nat
  exponent : Int
  deriving DecidableEq, Repr

/-- The least `k` with `value < 10 ^ k`, searched upwards from an estimate that is never too big. -/
def magnitude (value : Ratio) (k : Int) : Nat → Int
  | 0 => k
  | fuel + 1 =>
    if value.lt (Ratio.scale10 ⟨1, 1⟩ k) then k else magnitude value (k + 1) fuel

/-- The decimal of `n` digits nearest to the value among those that read back; on a tie the even
one. -/
def onGrid? (m : Nat) (q : Int) (value : Ratio) (k : Int) (n : Nat) : Option Decimal :=
  let e := k - n
  let s := value.scale10 (-e)
  let d := s.num / s.den
  let below := 0 < d && readsBack m q (Ratio.scale10 ⟨d, 1⟩ e)
  let above := readsBack m q (Ratio.scale10 ⟨d + 1, 1⟩ e)
  let twice := 2 * (s.num % s.den)
  let takeAbove := twice > s.den || (twice == s.den && d % 2 == 1)
  match below, above with
  | true, true => some ⟨if takeAbove then d + 1 else d, e⟩
  | true, false => some ⟨d, e⟩
  | false, true => some ⟨d + 1, e⟩
  | false, false => none

/-- The first grid from `n` digits on that holds a decimal reading back to the double. -/
def firstGrid (m : Nat) (q : Int) (value : Ratio) (k : Int) (n : Nat) : Nat → Decimal
  | 0 => ⟨0, 0⟩
  | fuel + 1 =>
    match onGrid? m q value k n with
    | some d => d
    | none => firstGrid m q value k (n + 1) fuel

/-- The decimal without trailing zeros in its digits. -/
def Decimal.strip (d : Decimal) : Nat → Decimal
  | 0 => d
  | fuel + 1 =>
    if d.digits % 10 = 0 ∧ d.digits ≠ 0 then Decimal.strip ⟨d.digits / 10, d.exponent + 1⟩ fuel
    else d

/-- The shortest decimal of a positive finite double. -/
def shortest (m : Nat) (q : Int) : Decimal :=
  let value := Ratio.scale2 ⟨m, 1⟩ q
  let bits : Int := (m.log2 : Int) + q
  let k := magnitude value (bits * 30103 / 100000 - 1) 5
  (firstGrid m q value k 1 17).strip 20

/-- The digits of a natural in base ten. -/
def digitsOf (n : Nat) : List Char := Nat.toDigits 10 n

/-- The text of a decimal. A number whose first digit has a place from 10^-4 to 10^15 is written
positionally, any other with an exponent of at least two digits and its sign; `point` asks for a
fraction even where the number is whole. -/
def layout (point : Bool) (d : Decimal) : List Char :=
  let ds := digitsOf d.digits
  let place : Int := ds.length + d.exponent
  if -4 < place ∧ place ≤ 16 then
    if place ≤ 0 then ['0', '.'] ++ List.replicate (-place).toNat '0' ++ ds
    else if d.exponent < 0 then ds.take place.toNat ++ ['.'] ++ ds.drop place.toNat
    else ds ++ List.replicate d.exponent.toNat '0' ++ (if point then ['.', '0'] else [])
  else
    let e := place - 1
    let exponentDigits := digitsOf e.natAbs
    let fraction := if ds.length ≤ 1 then [] else '.' :: ds.drop 1
    ds.take 1 ++ fraction ++ ['e', if e < 0 then '-' else '+'] ++
      (if exponentDigits.length < 2 then '0' :: exponentDigits else exponentDigits)

/-- The shortest text of a double. -/
def toText (x : Double) (point : Bool := true) : String :=
  let signed (s : Bool) (body : List Char) := String.ofList (if s then '-' :: body else body)
  match x with
  | finite s m q =>
    if m = 0 then signed s (if point then ['0', '.', '0'] else ['0'])
    else signed s (layout point (shortest m q))
  | infinite s => signed s ['i', 'n', 'f']
  | nan => "nan"

end Monomorph.Double
