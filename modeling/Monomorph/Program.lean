import Monomorph.Memory
import Monomorph.Report

/-!
Programs: what an implementation of a specialisation does while it runs. A program looks at the
memory, writes into arrays, releases or takes over views, puts values aside for later, calls
dispatched functions, and ends with a value or a failure. It is a finite tree, so every run of it
ends; only calls of other functions go beyond it.
-/

namespace Monomorph

/-- Why arguments cannot be bound to the parameters of a function. -/
inductive BindingFault where
  | tooMany (function : String) (expected given : Nat)
  | unexpected (function name : String)
  | repeated (function name : String)
  | missing (function name : String)
  /-- A keyword names the parameter that stands for the dispatcher itself. -/
  | ownName
  /-- A parameter without argument has a name under which no default can be looked up. -/
  | notKey
  deriving DecidableEq, Repr

/-- The wording of a binding fault. -/
def BindingFault.message : BindingFault → String
  | tooMany f expected given => s!"{f}() takes {expected} arguments but {given} were given"
  | unexpected f name => s!"{f}() got an unexpected keyword argument '{name}'"
  | repeated f name => s!"{f}() got multiple values for argument '{name}'"
  | missing f name => s!"{f}() missing required argument '{name}'"
  | ownName => "the parameter that stands for the dispatcher is given twice"
  | notKey => "a name is a list or an object"

/-- Why a call or a step of a program failed. -/
inductive Failure where
  | binding (fault : BindingFault)
  | mismatch (m : Mismatch)
  /-- The chosen specialisation has no implementation. -/
  | unregistered (function identifier : String)
  | view (fault : ViewFault)
  /-- A dispatched position cannot be looked at. -/
  | position (fault : PositionFault)
  /-- The chosen specialisation has an identifier under which nothing can be looked up. -/
  | notKey
  /-- A message would have to list names that are no texts. -/
  | unlisted
  /-- A position or a place is outside a list or an array. -/
  | outOfRange
  /-- A number cannot be written to an element of an array. -/
  | store (fault : Scalar.StoreFault)
  /-- A failure of the implementation's own. -/
  | raised (message : String)
  /-- There is no dispatched function of this number. -/
  | unknownFunction
  /-- Calls are nested too deeply. -/
  | tooDeep
  deriving DecidableEq, Repr

/-- What a program ends with: a value, or a value that is handed over to the caller. -/
inductive Answer where
  | value (v : Value)
  | moved (v : Value)
  deriving Repr

/-- What an implementation does. -/
inductive Program where
  | done (outcome : Except Failure Answer)
  | look (next : Memory → Program)
  | keep (v : Value) (next : Program)
  | write (block : Block) (position number : Int) (next : Except Failure Unit → Program)
  | drop (view : Nat) (next : Program)
  | detach (view : Nat) (next : Except Failure Value → Program)
  | call (function : Nat) (arguments : List Value) (keywords : List (String × Value))
    (next : Except Failure Value → Program)

/-- An implementation: what is done with the arguments of a call. -/
abbrev Implementation := List Value → Program

/-- How dispatched functions are called from within a program: the number of the function, its
arguments, and the memory before and after. -/
abbrev Caller := Nat → List Value → List (String × Value) → Memory → Except Failure Value × Memory

/-- Writes a number into an array, at a position counted through all its elements. -/
def Memory.writeAt (m : Memory) (b : Block) (position number : Int) : Except Failure Memory :=
  match placeIn? b.size position, b.format.store number with
  | none, _ => .error .outOfRange
  | _, .error fault => .error (.store fault)
  | some place, .ok cell => .ok (m.write b.buffer place cell)

namespace Program

/-- A program that ends with a value. -/
def pure (v : Value) : Program := done (.ok (.value v))

/-- A program that fails. -/
def fail (f : Failure) : Program := done (.error f)

/-- One program, and after it another that may depend on how the first ended. -/
def andThen : Program → (Except Failure Answer → Program) → Program
  | done outcome, next => next outcome
  | look k, next => look fun m => (k m).andThen next
  | keep v k, next => keep v (k.andThen next)
  | write b i n k, next => write b i n fun r => (k r).andThen next
  | drop v k, next => drop v (k.andThen next)
  | detach v k, next => detach v fun r => (k r).andThen next
  | call f args keywords k, next => call f args keywords fun r => (k r).andThen next

/-- The run of a program: how it ends, and the memory it leaves. -/
def run (caller : Caller) : Program → Memory → Except Failure Answer × Memory
  | done outcome, m => (outcome, m)
  | look next, m => (next m).run caller m
  | keep v next, m => next.run caller { m with kept := m.kept ++ [v] }
  | write b i n next, m =>
    match m.writeAt b i n with
    | .ok m' => (next (.ok ())).run caller m'
    | .error f => (next (.error f)).run caller m
  | drop v next, m => next.run caller (m.drop v)
  | detach v next, m =>
    match m.detach v with
    | .ok (content, m') => (next (.ok content)).run caller m'
    | .error f => (next (.error (.view f))).run caller m
  | call f args keywords next, m =>
    let (result, m') := caller f args keywords m
    (next result).run caller m'

end Program

end Monomorph
