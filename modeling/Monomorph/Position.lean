import Monomorph.Json

/-!
Positions in lists. A negative position counts from the end. A table that was read from a file can hold
anything in the place of a position; that does not matter before the position is looked at.
-/

namespace Monomorph

/-- A position as a table gives it. -/
inductive Position where
  | index (i : Int)
  /-- A truth value. It counts as one or zero. -/
  | truth (b : Bool)
  /-- What a file gave in the place of a position. -/
  | other (value : Json)
  deriving DecidableEq, Repr

/-- Why there is no element at a position. -/
inductive PositionFault where
  /-- The position is outside the list. -/
  | outOfRange
  /-- It is no position. -/
  | notPosition
  deriving DecidableEq, Repr

/-- The place that an integer means in a list of some length. -/
def placeIn? (length : Nat) (i : Int) : Option Nat :=
  if 0 ≤ i then
    if i.toNat < length then some i.toNat else none
  else if (-i).toNat ≤ length then some (length - (-i).toNat)
  else none

/-- The element at an integer position. -/
def atPosition? {α : Type} (xs : List α) (i : Int) : Option α :=
  (placeIn? xs.length i).bind fun n => xs[n]?

namespace Position

/-- The position that a JSON value gives. -/
def ofJson : Json → Position
  | .int n => index n
  | .bool b => truth b
  | v => other v

/-- A position as JSON. -/
def toJson : Position → Json
  | index i => .int i
  | truth b => .bool b
  | other v => v

/-- The integer that a position stands for. -/
def int? : Position → Option Int
  | index i => some i
  | truth b => some (if b then 1 else 0)
  | other _ => none

/-- The place that a position means in a list of some length. -/
def placeIn (length : Nat) (p : Position) : Except PositionFault Nat :=
  match p.int? with
  | none => .error .notPosition
  | some i =>
    match placeIn? length i with
    | some n => .ok n
    | none => .error .outOfRange

/-- The element at a position. -/
def elementIn {α : Type} (xs : List α) (p : Position) : Except PositionFault α :=
  match p.int? with
  | none => .error .notPosition
  | some i =>
    match atPosition? xs i with
    | some x => .ok x
    | none => .error .outOfRange

end Position

end Monomorph
