import Monomorph.ConcreteType
import Monomorph.Label
import Monomorph.Position

/-!
Dispatch tables: the ordered combinations of types that a function accepts, each with the symbol of
its specialisation. A look-up compares tags at the dispatched positions and takes the first
combination that agrees. Positions may come from a file, so looking at one can fail.
-/

namespace Monomorph

open Text

/-- One type for each argument, and the specialisation for them. -/
structure Combination where
  index : Nat
  names : List Label
  types : List ConcreteType
  identifier : Label
  deriving DecidableEq, Repr

namespace Combination

/-- The tags of the types. -/
def tags (c : Combination) : List String := c.types.map (·.tag)

/-- The text of a combination. -/
def toString (c : Combination) : String := c.identifier.shown ++ "(" ++ join ", " c.tags ++ ")"

/-- The type of the argument with a name. -/
def typeOf? (c : Combination) (name : Label) : Option ConcreteType :=
  (c.names.findIdx? (·.same name)).bind fun i => c.types[i]?

/-- The tag of every argument by its name; nothing if some name cannot be looked up. -/
def byName? (c : Combination) : Option (List (Label × String)) :=
  let pairs := c.names.zip c.tags
  if pairs.all (·.1.isKey) then some (Label.recordOf pairs) else none

/-- Does the combination have the given tags at all of some positions? The comparison stops at the
first difference, and fails if a position is looked at that is none or outside either list. -/
def agrees (c : Combination) (tags : List (Option String)) :
    List Position → Except PositionFault Bool
  | [] => .ok true
  | p :: rest => do
    let type ← p.elementIn c.types
    let tag ← p.elementIn tags
    if some type.tag == tag then c.agrees tags rest else return false

end Combination

/-- The combinations of one function in dispatch order. -/
structure DispatchTable where
  function : Label
  names : List Label
  combinations : List Combination
  positions : List Position
  /-- The default of each argument, as an expression of the host language. -/
  defaults : List (Option Label)
  deriving DecidableEq, Repr

namespace DispatchTable

/-- The symbols of all specialisations. -/
def identifiers (t : DispatchTable) : List Label := t.combinations.map (·.identifier)

/-- The accepted combinations as lists of tags. -/
def accepted (t : DispatchTable) : List (List String) := t.combinations.map (·.tags)

/-- The first of some combinations that has the given tags at the given positions. -/
def firstAgreeing (tags : List (Option String)) (positions : List Position) :
    List Combination → Except PositionFault (Option Combination)
  | [] => .ok none
  | c :: rest => do
    if ← c.agrees tags positions then return some c else firstAgreeing tags positions rest

/-- The first combination with the given tags at the dispatched positions, if there is one. -/
def lookup (t : DispatchTable) (tags : List (Option String)) :
    Except PositionFault (Option Combination) :=
  firstAgreeing tags t.positions t.combinations

/-- The combinations that have the given tag at one position. -/
def keepAt (tags : List (Option String)) (p : Position) :
    List Combination → Except PositionFault (List Combination)
  | [] => .ok []
  | c :: rest => do
    let keep ← c.agrees tags [p]
    let kept ← keepAt tags p rest
    return if keep then c :: kept else kept

/-- The first position at which no candidate is left. -/
def firstMismatchAmong (tags : List (Option String)) (candidates : List Combination) :
    List Position → Except PositionFault (Option Position)
  | [] => .ok none
  | p :: rest => do
    match ← keepAt tags p candidates with
    | [] => return some p
    | kept => firstMismatchAmong tags kept rest

/-- The first dispatched position whose tag no combination accepts that agrees with the tags before
it. -/
def firstMismatch (t : DispatchTable) (tags : List (Option String)) :
    Except PositionFault (Option Position) :=
  firstMismatchAmong tags t.combinations t.positions

/-- One default for every name: the table's own, or none at all if it has no list of defaults. -/
def paddedDefaults (t : DispatchTable) : List (Option Label) :=
  if t.defaults.isEmpty then t.names.map fun _ => none else t.defaults

end DispatchTable

end Monomorph
