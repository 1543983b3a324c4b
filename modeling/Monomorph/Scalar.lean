import Monomorph.ConcreteType
import Monomorph.Number.Double
import Monomorph.Scalar.TimeStep

/-!
Scalar formats: what the scalars in a run-time array are, and what becomes of an integer that is written
to one. Of the many formats only four are element types that a specialisation is generated for; a format
in foreign byte order is never one of them.
-/

namespace Monomorph

open Text

/-- The kinds of scalars, with their width in bits or their length. -/
inductive ScalarKind where
  | boolean
  | signed (bits : Nat)
  | unsigned (bits : Nat)
  | floating (bits : Nat)
  | complex (bits : Nat)
  | reference
  | text (length : Nat)
  | bytes (length : Nat)
  | raw (length : Nat)
  | instant (step : TimeStep)
  | span (step : TimeStep)
  /-- Texts of any length. -/
  | longText
  deriving DecidableEq, Repr

/-- A kind of scalar in the machine's byte order or in the other one. -/
structure Scalar where
  kind : ScalarKind
  swapped : Bool := false
  deriving DecidableEq, Repr

namespace ScalarKind

/-- Does the byte order matter? -/
def hasOrder : ScalarKind → Bool
  | boolean | reference | bytes _ | raw _ | longText => false
  | signed bits | unsigned bits => 8 < bits
  | _ => true

/-- The letter of a kind and its size in bytes, the length of a text, or its unit in brackets. -/
def code : ScalarKind → String
  | boolean => "b1"
  | signed bits => s!"i{bits / 8}"
  | unsigned bits => s!"u{bits / 8}"
  | floating bits => s!"f{bits / 8}"
  | complex bits => s!"c{bits / 8}"
  | reference => "O"
  | text n => s!"U{n}"
  | bytes n => s!"S{n}"
  | raw n => s!"V{n}"
  | instant step => "M8" ++ step.text
  | span step => "m8" ++ step.text
  | longText => "T"

/-- The name of a kind in the machine's byte order. -/
def name : ScalarKind → String
  | boolean => "bool"
  | signed bits => s!"int{bits}"
  | unsigned bits => s!"uint{bits}"
  | floating bits => s!"float{bits}"
  | complex bits => s!"complex{bits}"
  | reference => "object"
  | text n => s!"<U{n}"
  | bytes n => s!"|S{n}"
  | raw n => s!"|V{n}"
  | instant step => "datetime64" ++ step.text
  | span step => "timedelta64" ++ step.text
  | longText => "StringDType()"

/-- The number of bytes of a scalar. Texts of any length stand elsewhere. -/
def size : ScalarKind → Nat
  | boolean => 1
  | signed bits | unsigned bits | floating bits | complex bits => bits / 8
  | reference => 8
  | text n => 4 * n
  | bytes n | raw n => n
  | instant _ | span _ => 8
  | longText => 16

/-- The kind with elements of some length, if its elements can have one. -/
def ofLength (length : Nat) : ScalarKind → ScalarKind
  | text _ => text length
  | bytes _ => bytes length
  | raw _ => raw length
  | kind => kind

end ScalarKind

namespace Scalar

/-- A kind in the given byte order, where that matters. -/
def make (swapped : Bool) (kind : ScalarKind) : Scalar := ⟨kind, swapped && kind.hasOrder⟩

/-- The format that is meant where none is named. -/
def standard : Scalar := ⟨.floating 64, false⟩

/-- The name of a format. -/
def toString (s : Scalar) : String :=
  if s.swapped then ">" ++ s.kind.code else s.kind.name

/-- The element type of a format, if it is one. -/
def element? (s : Scalar) : Option Element :=
  if s.swapped then none
  else match s.kind with
    | .floating 32 => some .float32
    | .floating 64 => some .float64
    | .signed 32 => some .int32
    | .signed 64 => some .int64
    | _ => none

/-- Does a format that is asked for mean another one? -/
def means (asked actual : Scalar) : Bool :=
  asked.swapped == actual.swapped && match asked.kind, actual.kind with
    | .instant a, .instant b | .span a, .span b => a.means b
    | a, b => a == b

/-- Is a value of this format a truth value or a real number? -/
def isReal (s : Scalar) : Bool :=
  match s.kind with
  | .boolean | .signed _ | .unsigned _ | .floating _ => true
  | _ => false

/-- Can a sparse matrix have elements of this format? -/
def isStorable (s : Scalar) : Bool :=
  !s.swapped && match s.kind with
    | .boolean | .signed _ | .unsigned _ | .complex _ => true
    | .floating bits => 16 < bits
    | _ => false

/-- Why an integer cannot be written to an element. -/
inductive StoreFault where
  /-- It is out of range. -/
  | range
  /-- It would be a date, but the format has no unit to count in. -/
  | noUnit
  /-- The elements are raw bytes. -/
  | notBytes
  deriving DecidableEq, Repr

/-- What an element holds, as far as answers show it: an integer, or nothing for an infinity. -/
abbrev Cell := Option Int

/-- The nearest number with at most `digits` binary digits; of two, the even one. -/
def roundTo (digits n : Nat) : Nat :=
  let unit := Nat.pow 2 ((if n == 0 then 0 else Nat.log2 n + 1) - digits)
  let q := n / unit
  let r := n % unit
  if 2 * r < unit || (2 * r == unit && q % 2 == 0) then q * unit else (q + 1) * unit

/-- Is the integer too big for a double? -/
def exceedsDouble (n : Int) : Bool :=
  match Double.ofInt n with
  | .finite .. => false
  | _ => true

/-- The digits and the exponents of the binary formats narrower than a double. -/
def narrow? : Nat → Option (Nat × Nat)
  | 16 => some (11, 16)
  | 32 => some (24, 128)
  | _ => none

/-- What a floating-point element of some width holds after an integer is written to it. A narrow
element takes the double nearest to the integer, so it is rounded twice. -/
def storeFloating (bits : Nat) (n : Int) : Except StoreFault Cell :=
  let signed (size : Nat) : Int := if n < 0 then -(size : Int) else size
  if 64 < bits then .ok (some (signed (roundTo 64 n.natAbs)))
  else if exceedsDouble n then .error .range
  else
    let size := roundTo 53 n.natAbs
    match narrow? bits with
    | none => .ok (some (signed size))
    | some (digits, exponent) =>
      let size := roundTo digits size
      .ok (if size < Nat.pow 2 exponent then some (signed size) else none)

/-- What an element that counts time holds after an integer is written to it. -/
def storeTime (n : Int) : Except StoreFault Cell :=
  let bound : Int := Nat.pow 2 63
  if -bound ≤ n && n < bound then .ok (some n) else .error .range

/-- What an element of this format holds after an integer is written to it. -/
def store (s : Scalar) (n : Int) : Except StoreFault Cell :=
  match s.kind with
  | .boolean => .ok (some (if n == 0 then 0 else 1))
  | .signed bits =>
    let bound : Int := Nat.pow 2 (bits - 1)
    if -bound ≤ n && n < bound then .ok (some n) else .error .range
  | .unsigned bits => if 0 ≤ n && n < (Nat.pow 2 bits : Nat) then .ok (some n) else .error .range
  | .floating bits => storeFloating bits n
  | .complex _ => if exceedsDouble n then .error .range else .ok (some n)
  | .instant step => if step.unit == .generic then .error .noUnit else storeTime n
  | .span _ => storeTime n
  | .raw _ => .error .notBytes
  | _ => .ok (some n)

/-- The format of the elements of a new array, where open lengths are settled: raw bytes stay as they
are, and texts get the length of the longest number written, at least one. -/
def settled (s : Scalar) (numbers : List Int) : Scalar :=
  match s.kind with
  | .text 0 | .bytes 0 =>
    let longest := (numbers.map fun (n : Int) => (ToString.toString n).length).foldl max 1
    ⟨s.kind.ofLength longest, s.swapped⟩
  | _ => s

end Scalar

end Monomorph
