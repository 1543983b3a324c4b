import Monomorph.Memory

/-!
New arrays and matrices. An array is given by its numbers in row-major order, a sparse matrix by the
places and values of its entries. In a compressed layout the entries of one outer index stand
together, in the order of their inner indices, and entries that are zero are kept.
-/

namespace Monomorph

/-- Why an array or a matrix could not be made. -/
inductive AllocationFault where
  /-- There is no such sparse format, or none with such elements. -/
  | format
  /-- A number cannot be an element. -/
  | number (fault : Scalar.StoreFault)
  /-- The numbers do not fill the shape, a place is outside it, or there is no such shape. -/
  | shape
  deriving DecidableEq, Repr

/-- One stored value of a sparse matrix. -/
structure Entry where
  row : Int
  column : Int
  value : Int
  deriving DecidableEq, Repr

namespace Entry

/-- The outer index in a layout. -/
def outer (layout : Layout) (e : Entry) : Int :=
  match layout with
  | .csr => e.row
  | .csc => e.column

/-- The inner index in a layout. -/
def inner (layout : Layout) (e : Entry) : Int :=
  match layout with
  | .csr => e.column
  | .csc => e.row

/-- Does the entry stand outside a shape? -/
def isOutside (rows columns : Nat) (e : Entry) : Bool :=
  e.row < 0 || e.column < 0 || (rows : Int) ≤ e.row || (columns : Int) ≤ e.column

/-- Does one entry stand before the other in a layout? -/
def precedes (layout : Layout) (a b : Entry) : Bool :=
  a.outer layout < b.outer layout ||
    (a.outer layout == b.outer layout && a.inner layout ≤ b.inner layout)

end Entry

namespace Memory

/-- The numbers as elements of a format. -/
def store (format : ElementFormat) (numbers : List Int) : Except AllocationFault (List Scalar.Cell) :=
  (numbers.mapM format.store).mapError .number

/-- The number of elements of a shape. -/
def sizeOf (shape : List Nat) : Nat := shape.foldl (· * ·) 1

/-- A shape for some number of elements, or for as many as it takes. One dimension of a shape for given
elements may be left open by a negative number. -/
def settledShape (shape : List Int) (given : Option Nat) : Except AllocationFault (List Nat) := do
  let known := (shape.filter (0 ≤ ·)).map Int.toNat
  let free := shape.length - known.length
  if mostDimensions < shape.length then throw .shape
  match given with
  | none => if free == 0 then return known else throw .shape
  | some count =>
    let size := sizeOf known
    if free == 0 then
      if size == count then return known else throw .shape
    else if free == 1 && size != 0 && count % size == 0 then
      return shape.map fun n => if n < 0 then count / size else n.toNat
    else throw .shape

/-- A shape as the always two-dimensional array class has it. Of more than two dimensions, those of
length one are left out, which must leave no more than two and as many elements. -/
def matrixShape (shape : List Nat) : Except AllocationFault (List Nat) :=
  match shape with
  | [] => .ok [1, 1]
  | [n] => .ok [1, n]
  | [m, n] => .ok [m, n]
  | shape =>
    let long := shape.filter (1 < ·)
    let flat := match long with
      | [] => [1, 1]
      | [n] => [1, n]
      | ns => ns
    if long.length ≤ 2 && sizeOf flat == sizeOf shape then .ok flat else .error .shape

/-- A new dense array; all zeros if no numbers are given. -/
def newDense (m : Memory) (format : Format) (shape : List Int) (numbers : Option (List Int))
    (isMatrix : Bool) : Except AllocationFault (Value × Memory) := do
  let elements := format.elements.settled (numbers.getD [])
  let inner := sizeOf format.inner
  let stored := (← store elements (numbers.getD [])).flatMap (List.replicate inner)
  let shape ← settledShape shape (numbers.map fun _ => stored.length)
  let shape := if numbers.isNone then shape ++ format.inner else shape
  let dimensions := if numbers.isNone then shape.length else 1 + format.inner.length
  if mostDimensions < dimensions then throw .shape
  let content := if numbers.isNone then List.replicate (sizeOf shape) (some 0) else stored
  let (b, m) := m.allocate elements (← if isMatrix then matrixShape shape else pure shape) content isMatrix
  return (.array b, m)

/-- The format of inner indices and starts. -/
def indexFormat : ElementFormat := .scalar ⟨.signed 32, false⟩

/-- The formats of sparse matrices that are not compressed. -/
def otherFormats : List String := ["coo", "lil", "dok", "bsr", "dia"]

/-- A new sparse matrix of some format. -/
def newSparse (m : Memory) (name : String) (format : Format) (shape : List Int)
    (entries : List Entry) (isArray : Bool) : Except AllocationFault (Value × Memory) := do
  let elements := format.elements
  let _ ← store elements (entries.map (·.value))
  if !format.shapes.isEmpty || !elements.isStorable then throw .format
  let (rows, columns) ← match shape with
    | [.ofNat rows, .ofNat columns] => pure (rows, columns)
    | _ => throw .shape
  if entries.any (·.isOutside rows columns) then throw .shape
  match Layout.all.find? (·.name == name) with
  | none =>
    if otherFormats.contains name then
      return (.sparse ⟨.other name, elements, rows, columns, isArray⟩, m)
    else throw .format
  | some layout =>
    let ordered := entries.mergeSort (Entry.precedes layout)
    let stored ← store elements (ordered.map (·.value))
    let outers := match layout with
      | .csr => rows
      | .csc => columns
    let starts := (List.range (outers + 1)).map fun (i : Nat) =>
      some ((ordered.filter fun e => e.outer layout < (i : Int)).length : Int)
    let (data, m) := m.allocate elements [stored.length] stored
    let (indices, m) := m.allocate indexFormat [stored.length]
      (ordered.map fun e => some (e.inner layout))
    let (starts, m) := m.allocate indexFormat [outers + 1] starts
    return (.sparse ⟨.compressed layout ⟨data, indices, starts⟩, elements, rows, columns, isArray⟩, m)

end Memory

end Monomorph
