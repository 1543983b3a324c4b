import Monomorph.Config.Setting.Json
import Monomorph.Literal.Json

/-!
Labels: the names and texts of a dispatch table. A table that was generated has texts only. One that
was read from a file can hold any JSON value in the place of a text; that does not matter before the
text itself is needed, so such a value is kept as it is.
-/

namespace Monomorph

/-- A name or a text of a dispatch table. -/
inductive Label where
  | text (s : String)
  /-- What a file gave in the place of a text. -/
  | other (value : Json)
  deriving DecidableEq, Repr

instance : Coe String Label := ⟨.text⟩

instance : Coe Int Label := ⟨fun n => .other (.int n)⟩

namespace Label

/-- The label that a JSON value gives. -/
def ofJson : Json → Label
  | .str s => text s
  | v => other v

/-- The label that stands where there is no text. -/
def absent : Label := other .null

/-- A label as JSON. -/
def toJson : Label → Json
  | text s => .str s
  | other v => v

/-- A label as messages show it: a text as it is, and any other value as a setting is shown. -/
def shown : Label → String
  | text s => s
  | other (.halves points) => String.ofList (points.map Text.charOf)
  | other v => (Setting.ofJson v).shown

/-- The text of a label, if it is one. -/
def text? : Label → Option String
  | text s => some s
  | other (.halves points) => some (String.ofList (points.map Text.charOf))
  | other _ => none

/-- Do two labels name the same? Texts do if they are equal; numbers are compared by value. -/
def same : Label → Label → Bool
  | text s, text t => s == t
  | other v, other w => v == w || (Literal.memberOf v).same (Literal.memberOf w)
  | _, _ => false

/-- Can something be looked up under the label? Nothing can under a list or an object. -/
def isKey : Label → Bool
  | other (.arr _) | other (.obj _) => false
  | _ => true

/-- The first value under a label. -/
def lookup? {α : Type} (key : Label) (entries : List (Label × α)) : Option α :=
  (entries.find? fun e => e.1.same key).map (·.2)

/-- Puts a value under a label: in place of the old value, or at the end for a new label. -/
def put {α : Type} (key : Label) (value : α) : List (Label × α) → List (Label × α)
  | [] => [(key, value)]
  | (k, v) :: rest => if k.same key then (k, value) :: rest else (k, v) :: put key value rest

/-- The record of some pairs. A repeated label keeps its first place and its last value. -/
def recordOf {α : Type} (pairs : List (Label × α)) : List (Label × α) :=
  pairs.foldl (fun r p => put p.1 p.2 r) []

/-- Are all labels different from each other? -/
def areDistinct : List Label → Bool
  | [] => true
  | l :: rest => !rest.any l.same && areDistinct rest

end Label

end Monomorph
