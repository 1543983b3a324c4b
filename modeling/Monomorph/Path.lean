import Monomorph.Text.Blank

/-!
File paths with slashes. A path is a root and a list of components; empty components and single dots
disappear when a text is read, double dots stay. Nothing here looks at a file system.
-/

namespace Monomorph

/-- Where a path starts: at the current directory, at the root directory, or at the root that
exactly two slashes name. -/
inductive Path.Root where
  | relative | slash | doubleSlash
  deriving DecidableEq, Repr

/-- A file path. -/
structure Path where
  root : Path.Root
  parts : List String
  deriving DecidableEq, Repr

namespace Path

open Text

/-- The texts between slashes. -/
def splitSlashes : List Char → List (List Char)
  | [] => [[]]
  | c :: r =>
    if c == '/' then [] :: splitSlashes r
    else match splitSlashes r with
      | p :: ps => (c :: p) :: ps
      | [] => [[c]]

/-- The path that a text names. -/
def ofString (s : String) : Path :=
  let cs := s.toList
  let slashes := (cs.takeWhile (· == '/')).length
  let root := if slashes = 0 then Root.relative else if slashes = 2 then .doubleSlash else .slash
  let parts := (splitSlashes cs).map String.ofList |>.filter fun p => p != "" && p != "."
  ⟨root, parts⟩

/-- The text of a root. -/
def Root.text : Root → String
  | relative => ""
  | slash => "/"
  | doubleSlash => "//"

/-- The text of a path; the empty relative path is a dot. -/
def toString (p : Path) : String :=
  let s := p.root.text ++ join "/" p.parts
  if s == "" then "." else s

instance : ToString Path := ⟨Path.toString⟩

/-- Can the path name anything? No name holds the null character. -/
def isNameable (p : Path) : Bool := p.parts.all fun part => !part.toList.contains (Char.ofNat 0)

/-- Does the path start at a root directory? -/
def isAbsolute (p : Path) : Bool := p.root != .relative

/-- The second path seen from the first; an absolute path stays what it is. -/
def append (p q : Path) : Path := if q.isAbsolute then q else ⟨p.root, p.parts ++ q.parts⟩

/-- The path one component below. -/
def child (p : Path) (part : String) : Path := ⟨p.root, p.parts ++ [part]⟩

/-- The path without its last component. -/
def parent (p : Path) : Path := ⟨p.root, p.parts.dropLast⟩

/-- The last component. -/
def name (p : Path) : String := p.parts.getLast?.getD ""

/-- The offset of the dot that starts the suffix of a name: the last dot, when it is neither the
first nor the last character. -/
def suffixOffset? (name : List Char) : Option Nat :=
  let tail := (name.reverse.takeWhile (· != '.')).length
  if tail = 0 ∨ name.length ≤ tail + 1 then none else some (name.length - tail - 1)

/-- The suffix of the last component, with its dot. -/
def suffix (p : Path) : String :=
  let n := p.name.toList
  match suffixOffset? n with
  | some i => String.ofList (n.drop i)
  | none => ""

/-- The last component without its suffix. -/
def stem (p : Path) : String :=
  let n := p.name.toList
  match suffixOffset? n with
  | some i => String.ofList (n.take i)
  | none => p.name

/-- The path with another last component. -/
def withName (p : Path) (name : String) : Path := ⟨p.root, p.parts.dropLast ++ [name]⟩

/-- The root, if the path has one, and the components. -/
def components (p : Path) : List String :=
  if p.isAbsolute then p.root.text :: p.parts else p.parts

/-- The order of lists of components: the first difference decides, and a list stands before its
continuations. -/
def precedes : List String → List String → Bool
  | [], _ => true
  | _ :: _, [] => false
  | a :: r, b :: s => if a == b then precedes r s else decide (a < b)

/-- The order of paths: component by component, a root first. -/
def le (p q : Path) : Bool := precedes p.components q.components

/-- One more component on a list of components, where double dots take the last one back. -/
def step (parts : List String) (part : String) : List String :=
  if part == ".." then parts.dropLast else parts ++ [part]

/-- The absolute path without double dots that a path means as seen from an absolute one. -/
def resolvedFrom (p here : Path) : Path := ⟨.slash, (here.append p).parts.foldl step []⟩

/-- The path and the paths above it, nearest first, as many as asked for. The root directory is the
last. -/
def ancestors (p : Path) : Nat → List Path
  | 0 => []
  | n + 1 => p :: if p.parts.isEmpty then [] else p.parent.ancestors n

end Path

end Monomorph
