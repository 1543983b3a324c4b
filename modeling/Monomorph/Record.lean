/-!
Records: values under names, in the order in which the names first appear.
-/

namespace Monomorph.Record

/-- Puts a value under a name: in place of the old value, or at the end for a new name. -/
def put {κ α : Type} [BEq κ] (name : κ) (value : α) : List (κ × α) → List (κ × α)
  | [] => [(name, value)]
  | (n, v) :: rest => if n == name then (n, value) :: rest else (n, v) :: put name value rest

/-- The record of some pairs. A repeated name keeps its first place and its last value. -/
def ofPairs {κ α : Type} [BEq κ] (pairs : List (κ × α)) : List (κ × α) :=
  pairs.foldl (fun r p => put p.1 p.2 r) []

end Monomorph.Record
