import Monomorph.Value

/-!
Views: windows on a caller's buffers for the time of one call. A view is live from its creation until
its holder drops it or its call ends; a view that was transferred outlives its call. Nothing brings a
view back to life.
-/

namespace Monomorph

open Text

/-- The stages of a view's life. -/
inductive Lifetime where
  | live
  /-- Released by whoever held it. -/
  | dropped
  /-- Released at the end of the call that made it. -/
  | expired
  deriving DecidableEq, Repr

/-- What a view borrows. -/
inductive Borrowed where
  | dense (block : Block)
  | sparse (parts : Triplet) (rows columns : Nat)
  deriving DecidableEq, Repr

/-- A view. A view that was made for a value of no numeric type has no type. -/
structure View where
  type : Option ConcreteType
  borrowed : Borrowed
  lifetime : Lifetime := .live
  transferred : Bool := false
  deriving DecidableEq, Repr

/-- Why a view could not be made or used. -/
inductive ViewFault where
  | needsArray (className : String)
  | needsCompressed (className : String)
  | released (kind : ViewKind) (tag : String)
  /-- A message or a result needs the type of a view that has none. -/
  | untyped
  /-- The view is of the other kind. -/
  | absent
  /-- The elements would have to be converted. -/
  | conversion
  /-- The arrays do not fit the layout of the type. -/
  | misshapen
  /-- There is no view of this number. -/
  | unknown
  deriving DecidableEq, Repr

/-- The wording of a fault. -/
def ViewFault.message : ViewFault → String
  | needsArray c => s!"DenseView needs a numpy.ndarray, got {c}"
  | needsCompressed c => s!"SparseView needs a scipy CSR/CSC matrix, got {c}"
  | released kind tag => s!"{kind.className}[{tag}] used after its call returned"
  | conversion => "DenseView does not convert element types"
  | untyped => "the view has no type"
  | absent => "the view has no such member"
  | misshapen => "the arrays do not fit the layout"
  | unknown => "there is no such view"

namespace View

/-- The kind of a view. -/
def kind (v : View) : ViewKind :=
  match v.borrowed with
  | .dense _ => .dense
  | .sparse .. => .sparse

/-- Is the view still live? -/
def isValid (v : View) : Bool := v.lifetime == .live

/-- The tag of the view's type. -/
def tag (v : View) : Except ViewFault String :=
  match v.type with
  | some t => .ok t.tag
  | none => .error .untyped

/-- Refuses a view that is no longer live. -/
def check (v : View) : Except ViewFault Unit :=
  if v.isValid then .ok ()
  else match v.tag with
    | .ok tag => .error (.released v.kind tag)
    | .error fault => .error fault

/-- The array of a dense view. -/
def array (v : View) : Except ViewFault Block :=
  match v.borrowed with
  | .dense block => v.check.map fun _ => block
  | .sparse .. => .error .absent

/-- The arrays of a sparse view. -/
def parts (v : View) : Except ViewFault Triplet :=
  match v.borrowed with
  | .dense _ => .error .absent
  | .sparse parts .. => v.check.map fun _ => parts

/-- The array that holds the elements. -/
def elements (v : View) : Except ViewFault Block :=
  match v.borrowed with
  | .dense _ => v.array
  | .sparse .. => v.parts.map (·.data)

/-- The shape that is shown, whether the view is live or not. -/
def extent (v : View) : List Nat :=
  match v.borrowed with
  | .dense block => block.shape
  | .sparse _ rows columns => [rows, columns]

/-- The shape. -/
def shape (v : View) : Except ViewFault (List Nat) := v.check.map fun _ => v.extent

/-- The format of the elements of a dense view. -/
def format (v : View) : Except ViewFault ElementFormat := v.array.map (·.format)

/-- The array, for a caller that expects elements of some format. -/
def arrayAs (v : View) (wanted : Option Format) : Except ViewFault Block := do
  let block ← v.array
  match wanted with
  | none => return block
  | some f => if f.means block.format then return block else throw .conversion

/-- The layout of a sparse view. -/
def layout (v : View) : Except ViewFault Layout :=
  match v.borrowed, v.type with
  | .dense _, _ => .error .absent
  | .sparse .., some (.sparse _ layout) => .ok layout
  | .sparse .., _ => .error .untyped

/-- A sparse matrix over the same arrays, in the layout of the view's type. The arrays fit if there
is one start more than there are outer indices. -/
def matrix (v : View) : Except ViewFault SparseMatrix :=
  match v.borrowed with
  | .dense _ => .error .absent
  | .sparse parts rows columns => do
    v.check
    let l ← v.layout
    let outer := match l with
      | .csr => rows
      | .csc => columns
    if parts.starts.size == outer + 1 then
      return ⟨.compressed l parts, parts.data.format, rows, columns, false⟩
    else throw .misshapen

/-- What a view gives back to the caller: its array, or a matrix over its arrays. -/
def content (v : View) : Except ViewFault Value :=
  match v.borrowed with
  | .dense _ => v.array.map .array
  | .sparse .. => v.matrix.map .sparse

/-- The text of a view. -/
def text (v : View) : Except ViewFault String :=
  v.tag.map fun tag =>
    let state := if v.isValid then "valid" else "released"
    s!"{v.kind.className}({tag}, shape={shapeText v.extent}, {state})"

/-- The view after its holder has released it. Releasing twice is harmless. -/
def drop (v : View) : View := if v.isValid then { v with lifetime := .dropped } else v

/-- The view after its call has ended: only a transferred one lives on. -/
def expire (v : View) : View :=
  if v.isValid && !v.transferred then { v with lifetime := .expired } else v

end View

end Monomorph
