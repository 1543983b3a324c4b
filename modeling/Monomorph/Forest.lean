/-!
Classes of names that are merged step by step. The names are numbered in their order, and every
name points at one with a smaller number or, as the root of its class, at itself; so the walk to a
root ends, and the root is the first name of its class.
-/

namespace Monomorph

/-- Names in order and, for each, the number of the name it points at. -/
structure Forest where
  names : List String
  parents : List Nat
  deriving DecidableEq, Repr

namespace Forest

/-- Every name once, at the place of its last occurrence. -/
def lastOccurrences : List String → List String
  | [] => []
  | n :: rest => if rest.contains n then lastOccurrences rest else n :: lastOccurrences rest

/-- The forest in which every name is a class of its own. -/
def singletons (names : List String) : Forest :=
  let distinct := lastOccurrences names
  ⟨distinct, List.range distinct.length⟩

/-- The number that a number points at. -/
def parent (f : Forest) (i : Nat) : Nat := f.parents.getD i i

/-- The number of the root above a number. -/
def root (f : Forest) (i : Nat) : Nat := if f.parent i < i then f.root (f.parent i) else i
termination_by i

/-- The forest in which every number on the way up from `i` points at `r`. -/
def shorten (f : Forest) (r i : Nat) : Forest :=
  if f.parent i < i then
    let g := f.shorten r (f.parent i)
    { g with parents := g.parents.set i r }
  else f
termination_by i

/-- The number of a name. -/
def index? (f : Forest) (name : String) : Option Nat := f.names.idxOf? name

/-- The name with a number. -/
def nameAt (f : Forest) (i : Nat) : String := f.names.getD i ""

/-- The root of a name's class, and the forest with shorter ways to it; nothing for an unknown
name. -/
def find? (f : Forest) (name : String) : Option (String × Forest) :=
  (f.index? name).map fun i => (f.nameAt (f.root i), f.shorten (f.root i) i)

/-- Merges the classes of two names. The root of the merged class is the earlier of the roots. -/
def union? (f : Forest) (a b : String) : Option (String × Forest) := do
  let i ← f.index? a
  let j ← f.index? b
  let f := f.shorten (f.root i) i
  let f := f.shorten (f.root j) j
  let r := min (f.root i) (f.root j)
  let s := max (f.root i) (f.root j)
  return (f.nameAt r, if r = s then f else { f with parents := f.parents.set s r })

/-- The classes in the order of their roots: each root with all members in order. -/
def groups (f : Forest) : List (String × List String) :=
  let all := List.range f.names.length
  (all.filter fun i => f.root i == i).map fun r =>
    (f.nameAt r, (all.filter fun j => f.root j == r).map f.nameAt)

end Forest

end Monomorph
