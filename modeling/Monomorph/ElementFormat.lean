import Monomorph.Scalar

/-!
What the elements of a run-time array are: scalars, or records whose fields hold scalars or arrays of
them.
-/

namespace Monomorph

open Text

/-- The text of a shape. -/
def shapeText : List Nat → String
  | [n] => s!"({n},)"
  | ns => "(" ++ join ", " (ns.map toString) ++ ")"

/-- The most dimensions that an array can have. -/
def mostDimensions : Nat := 64

/-- What a field of a record holds: a scalar, or arrays that hold arrays of them. The shape of the
outermost array comes first. -/
structure Field where
  scalar : Scalar
  shapes : List (List Nat) := []
  deriving DecidableEq, Repr

namespace Field

/-- A scalar format as the description of a record names it. -/
def code (s : Scalar) : String :=
  let size (n : Nat) : String := if n == 0 then "" else toString n
  let order := if s.swapped then ">" else if s.kind.hasOrder then "<" else ""
  match s.kind with
  | .boolean => "?"
  | .text n => order ++ "U" ++ size n
  | .bytes n => "S" ++ size n
  | .raw n => "V" ++ size n
  | kind => order ++ kind.code

/-- What a field holds, in the words of a description: the arrays in brackets, or the name of the
scalar. -/
def inner (s : Scalar) : List (List Nat) → String
  | [] => s!"'{code s}'"
  | shape :: shapes => s!"({inner s shapes}, {shapeText shape})"

/-- A field in the description of a record, where it has some place. -/
def text (place : Nat) (f : Field) : String :=
  match f.shapes with
  | [] => s!"('f{place}', {inner f.scalar []})"
  | shape :: shapes => s!"('f{place}', {inner f.scalar shapes}, {shapeText shape})"

/-- Does a field that is asked for mean another one? Texts of any length in two records are never the
same. -/
def means (asked actual : Field) : Bool :=
  asked.shapes == actual.shapes && asked.scalar.kind != .longText && asked.scalar.means actual.scalar

end Field

/-- What the elements of an array are. -/
inductive ElementFormat where
  | scalar (s : Scalar)
  | record (fields : List Field)
  deriving DecidableEq, Repr

namespace ElementFormat

/-- The name of a format. -/
def toString : ElementFormat → String
  | scalar s => s.toString
  | record fields => "[" ++ join ", " (fields.zipIdx.map fun f => f.1.text f.2) ++ "]"

/-- The element type of a format, if it is one. -/
def element? : ElementFormat → Option Element
  | scalar s => s.element?
  | record _ => none

/-- Is an element of this format a truth value or a real number? -/
def isReal : ElementFormat → Bool
  | scalar s => s.isReal
  | record _ => false

/-- Can a sparse matrix have elements of this format? -/
def isStorable : ElementFormat → Bool
  | scalar s => s.isStorable
  | record _ => false

/-- Does a format that is asked for mean another one? -/
def means : ElementFormat → ElementFormat → Bool
  | scalar a, scalar b => a.means b
  | record as, record bs => as.length == bs.length && (as.zip bs).all fun p => p.1.means p.2
  | _, _ => false

/-- What an element of this format holds after an integer is written to it. Every field of a record gets
the integer. -/
def store : ElementFormat → Int → Except Scalar.StoreFault Scalar.Cell
  | scalar s, n => s.store n
  | record fields, n => do
    for f in fields do
      let _ ← f.scalar.store n
    return some n

/-- The format of the elements of a new array, where open lengths are settled. -/
def settled : ElementFormat → List Int → ElementFormat
  | scalar s, numbers => scalar (s.settled numbers)
  | record fields, _ => record fields

end ElementFormat

end Monomorph
