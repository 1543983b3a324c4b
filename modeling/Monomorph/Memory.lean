import Monomorph.View

/-!
Memory: the buffers of arrays, the views that borrow them, and what implementations put aside. Every
change of a buffer or a view goes through the operations here.
-/

namespace Monomorph

/-- The buffers, the views, and the values that implementations have put aside. -/
structure Memory where
  buffers : List (List Scalar.Cell) := []
  views : List View := []
  kept : List Value := []
  deriving Repr

namespace Memory

/-- What a buffer holds. -/
def buffer (m : Memory) (number : Nat) : List Scalar.Cell := m.buffers[number]?.getD []

/-- What the elements of an array hold. -/
def cells (m : Memory) (b : Block) : List Scalar.Cell := m.buffer b.buffer

/-- The elements of an array as integers; nothing if one of them is an infinity. -/
def elements? (m : Memory) (b : Block) : Option (List Int) := (m.cells b).mapM id

/-- Adds a buffer with this content under an array of some format and shape. -/
def allocate (m : Memory) (format : ElementFormat) (shape : List Nat) (content : List Scalar.Cell)
    (isMatrix : Bool := false) : Block × Memory :=
  (⟨format, shape, m.buffers.length, isMatrix⟩, { m with buffers := m.buffers ++ [content] })

/-- Writes one element of a buffer. -/
def write (m : Memory) (buffer place : Nat) (cell : Scalar.Cell) : Memory :=
  { m with buffers := m.buffers.modify buffer fun cells => cells.set place cell }

/-- The view with a number. -/
def view? (m : Memory) (number : Nat) : Option View := m.views[number]?

/-- Adds a view. -/
def addView (m : Memory) (v : View) : Value × Memory :=
  (.view v.kind m.views.length, { m with views := m.views ++ [v] })

/-- Changes one view. -/
def changeView (m : Memory) (number : Nat) (change : View → View) : Memory :=
  { m with views := m.views.modify number change }

/-- A dense view of a value. -/
def viewDense (m : Memory) (v : Value) (type : Option ConcreteType) :
    Except ViewFault (Value × Memory) :=
  match v with
  | .array b => .ok (m.addView { type := type, borrowed := .dense b })
  | v => .error (.needsArray v.className)

/-- A sparse view of a value. -/
def viewSparse (m : Memory) (v : Value) (type : Option ConcreteType) :
    Except ViewFault (Value × Memory) :=
  match v with
  | .sparse s =>
    match s.storage with
    | .compressed _ parts =>
      .ok (m.addView { type := type, borrowed := .sparse parts s.rows s.columns })
    | .other _ => .error (.needsCompressed s.className)
  | v => .error (.needsCompressed v.className)

/-- A value as a specialisation takes it for a parameter of some type: a view for a numeric type, and
the value itself for a host type. -/
def viewAs (m : Memory) (v : Value) : ConcreteType → Except ViewFault (Value × Memory)
  | t@(.dense _) => m.viewDense v (some t)
  | t@(.sparse ..) => m.viewSparse v (some t)
  | .host _ => .ok (v, m)

/-- The arguments of a specialisation, one for each value that has a type. -/
def viewAll (m : Memory) : List (Value × ConcreteType) → Except ViewFault (List Value × Memory)
  | [] => .ok ([], m)
  | (v, t) :: rest => do
    let (first, m) ← m.viewAs v t
    let (others, m) ← m.viewAll rest
    return (first :: others, m)

/-- Releases a view. -/
def drop (m : Memory) (number : Nat) : Memory := m.changeView number View.drop

/-- Hands what a view borrows back to the caller; the view then outlives its call. -/
def detach (m : Memory) (number : Nat) : Except ViewFault (Value × Memory) :=
  match m.view? number with
  | none => .error .unknown
  | some v =>
    v.content.map fun c => (c, m.changeView number fun v => { v with transferred := true })

/-- Ends the borrowing of a value, if it is a view. -/
def expire (m : Memory) : Value → Memory
  | .view _ number => m.changeView number View.expire
  | _ => m

/-- The number of values that a sparse view stores. -/
def storedCount (m : Memory) (v : View) : Except ViewFault Int :=
  v.parts.map fun parts => ((m.cells parts.starts).getLast?.bind id).getD 0

end Memory

end Monomorph
