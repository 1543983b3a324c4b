import Monomorph.Literal.Json
import Monomorph.Scalar.Format

/-!
Run-time values: what a caller passes to a dispatched function. Arrays and matrices do not hold
their elements; they name a buffer of the memory, so that two values can share one. The tag of a
value is what dispatch compares: no conversion is ever applied to make a value fit.
-/

namespace Monomorph

/-- A dense array over a buffer. -/
structure Block where
  format : ElementFormat
  shape : List Nat
  buffer : Nat
  /-- Is it of the array class that is always two-dimensional? -/
  isMatrix : Bool := false
  deriving DecidableEq, Repr

namespace Block

/-- The number of elements. -/
def size (b : Block) : Nat := b.shape.foldl (· * ·) 1

/-- The name of the class. -/
def className (b : Block) : String := if b.isMatrix then "matrix" else "ndarray"

end Block

/-- The three arrays of a compressed sparse matrix: its stored values, the inner index of each, and
for each outer index the place where its values start. -/
structure Triplet where
  data : Block
  indices : Block
  starts : Block
  deriving DecidableEq, Repr

/-- How a sparse matrix keeps its values. Only the compressed layouts are looked into. -/
inductive SparseStorage where
  | compressed (layout : Layout) (parts : Triplet)
  | other (format : String)
  deriving DecidableEq, Repr

/-- The name of a storage format. -/
def SparseStorage.format : SparseStorage → String
  | compressed layout _ => layout.name
  | other format => format

/-- A sparse matrix. -/
structure SparseMatrix where
  storage : SparseStorage
  format : ElementFormat
  rows : Nat
  columns : Nat
  /-- Is it of the array classes, not of the matrix classes? -/
  isArray : Bool := false
  deriving DecidableEq, Repr

/-- The name of the class of a sparse matrix. -/
def SparseMatrix.className (m : SparseMatrix) : String :=
  m.storage.format ++ (if m.isArray then "_array" else "_matrix")

/-- The two kinds of views. -/
inductive ViewKind where
  | dense | sparse
  deriving DecidableEq, Repr

/-- The name of the class of a kind of view. -/
def ViewKind.className : ViewKind → String
  | dense => "DenseView"
  | sparse => "SparseView"

/-- A value. A view is named by its number in the memory. -/
inductive Value where
  | literal (v : Literal)
  | array (b : Block)
  | sparse (m : SparseMatrix)
  | view (kind : ViewKind) (number : Nat)
  deriving Repr

namespace Value

/-- The name of the class. -/
def className : Value → String
  | literal v => v.className
  | array b => b.className
  | sparse m => m.className
  | view kind _ => kind.className

/-- A value as an item of a list, where only the class of what is no literal is known. -/
def item : Value → Literal
  | literal v => v
  | v => .object v.className

/-- The type of a value that a specialisation can be generated for. -/
def typeOf? : Value → Option ConcreteType
  | array b => b.format.element?.map .dense
  | sparse m =>
    match m.storage with
    | .compressed layout _ => m.format.element?.map (.sparse · layout)
    | .other _ => none
  | _ => none

/-- The tag of a value. An array or matrix that no specialisation can take still has a telling one;
any other value has the name of its class. -/
def tag (v : Value) : String :=
  match v.typeOf? with
  | some t => t.tag
  | none =>
    match v with
    | array b => s!"dense<{b.format.toString}>"
    | sparse m => s!"{m.storage.format}<{m.format.toString}>"
    | _ => v.className

/-- The buffer of an array, or of the stored values of a compressed matrix. -/
def buffer? : Value → Option Nat
  | array b => some b.buffer
  | sparse m =>
    match m.storage with
    | .compressed _ parts => some parts.data.buffer
    | .other _ => none
  | _ => none

end Value

end Monomorph
