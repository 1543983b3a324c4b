import Monomorph.FileSystem

/-!
What has changed between two file systems, below a directory: what is new, what is gone, and which files
have another content.
-/

namespace Monomorph

namespace FileSystem

/-- The file system without whatever a path names, and everything below it. -/
def removeTree (fs : FileSystem) (here : Place) (path : Path) : Except FileFault FileSystem := do
  let place ← fs.place? here path
  if (fs.node? place).isNone then .error .missing
  else .ok ⟨fs.nodes.filter fun p => !place.isPrefixOf p.1⟩

/-- The names that lead from a place to everything below it. -/
def everythingBelow (fs : FileSystem) (place : Place) : List (List String) :=
  fs.nodes.filterMap fun p =>
    if place.isPrefixOf p.1 && place != p.1 then some (p.1.drop place.length) else none

end FileSystem

/-- A change between two file systems: paths as seen from the directory that is looked at. -/
structure Difference where
  added : List String
  removed : List String
  changed : List String
  deriving DecidableEq, Repr

namespace Difference

/-- Paths in the order of their texts. -/
def texts (names : List (List String)) : List String :=
  (names.map (Text.join "/")).mergeSort fun a b => decide (a ≤ b)

/-- What has changed below a place. -/
def between (place : Place) (before after : FileSystem) : Difference :=
  let had (names : List String) : Option Node := before.node? (place ++ names)
  let has (names : List String) : Option Node := after.node? (place ++ names)
  { added := texts ((after.everythingBelow place).filter fun names => (had names).isNone)
    removed := texts ((before.everythingBelow place).filter fun names => (has names).isNone)
    changed := texts ((after.everythingBelow place).filter fun names =>
      (had names).isSome && had names != has names) }

end Difference

end Monomorph
