import Monomorph.Program

/-!
Members of views, and the programs that use them. Most members are read off a view as it stands; two
change it: releasing it, and taking its content over.
-/

namespace Monomorph

/-- What can be asked of a view. -/
inductive Member where
  | array | shape | format | isValid | isTransferred | values | indices | starts | storedCount
  | layout | text | matrix
  /-- The array, for a caller that expects elements of some format. -/
  | arrayAs (wanted : Option Format)
  | release | detach
  deriving DecidableEq, Repr

namespace Member

/-- The member of a name. -/
def ofName? : String → Option Member
  | "array" => some array
  | "shape" => some shape
  | "dtype" => some format
  | "is_valid" => some isValid
  | "is_transferred" => some isTransferred
  | "data" => some values
  | "indices" => some indices
  | "indptr" => some starts
  | "nnz" => some storedCount
  | "layout" => some layout
  | "__repr__" => some text
  | "to_scipy" => some matrix
  | "release" => some release
  | "detach" => some detach
  | _ => none

/-- A text as a value. -/
def ofText (s : String) : Value := .literal (.text s)

/-- A truth value as a value. -/
def ofBool (b : Bool) : Value := .literal (.bool b)

/-- The value of a member that is read off a view. -/
def valueIn (m : Memory) (v : View) : Member → Except ViewFault Value
  | array => v.array.map .array
  | arrayAs wanted => (v.arrayAs wanted).map .array
  | shape => v.shape.map fun ns => .literal (.list (ns.map fun n => .int (n : Nat)))
  | format => v.format.map fun f => ofText f.toString
  | isValid => .ok (ofBool v.isValid)
  | isTransferred => .ok (ofBool v.transferred)
  | values => v.parts.map fun p => .array p.data
  | indices => v.parts.map fun p => .array p.indices
  | starts => v.parts.map fun p => .array p.starts
  | storedCount => (m.storedCount v).map fun n => .literal (.int n)
  | layout => v.layout.map fun l => ofText l.name
  | text => v.text.map ofText
  | matrix => v.matrix.map .sparse
  | release => .error .absent
  | detach => .error .absent

end Member

namespace Program

/-- The program that goes on with a view, if the value is one. -/
def onView (next : View → Memory → Program) : Value → Program
  | .view _ number => .look fun m =>
    match m.view? number with
    | none => .fail (.view .unknown)
    | some v => next v m
  | _ => .fail (.view .absent)

/-- The program that ends with a result. -/
def ofResult (r : Except Failure Value) : Program := .done (r.map .value)

/-- The program that uses a member of a view. -/
def useMember (member : Member) (v : Value) : Program :=
  match member, v with
  | .release, .view _ number => .drop number (.pure (.literal .nothing))
  | .detach, .view _ number => .detach number ofResult
  | _, _ => onView (fun view m => ofResult ((member.valueIn m view).mapError .view)) v

/-- The program that writes one element through a view, counted through all elements. -/
def writeElement (position number : Int) : Value → Program :=
  onView fun view _ =>
    match view.elements with
    | .error fault => .fail (.view fault)
    | .ok block =>
      .write block position number fun r => ofResult (r.map fun _ => .literal .nothing)

end Program

namespace Implementation

/-- The implementation that goes on with one argument; a negative position counts from the end. -/
def onArgument (position : Int) (next : Value → Program) : Implementation := fun arguments =>
  match atPosition? arguments position with
  | some v => next v
  | none => .fail .outOfRange

/-- Implementations one after the other, until one fails. The last value counts. -/
def inTurn (steps : List Implementation) : Implementation := fun arguments =>
  steps.foldl (fun before next => before.andThen fun r =>
    match r with
    | .error fault => .fail fault
    | .ok _ => next arguments) (.pure (.literal .nothing))

end Implementation

end Monomorph
