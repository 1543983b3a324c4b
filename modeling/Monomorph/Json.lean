import Monomorph.FieldName
import Monomorph.Number.Double

/-!
JSON values. Integers are unbounded and kept apart from doubles; the fields of an object stand in
the order in which their names first appear, and a repeated name keeps its last value.
-/

namespace Monomorph

/-- A JSON value. -/
inductive Json where
  | null
  | bool (b : Bool)
  | int (n : Int)
  | double (x : Double)
  | str (s : String)
  /-- A text in which a surrogate stands alone, as its code points. No `String` holds it. -/
  | halves (points : List Nat)
  | arr (items : List Json)
  | obj (fields : List (FieldName × Json))
  deriving Repr, Inhabited

namespace Json

/-- The value under a name, if the value is an object that has it. -/
def field? (name : String) : Json → Option Json
  | obj fields => FieldName.valueOf? name fields
  | _ => none

/-- The names and values of an object. -/
def fields : Json → List (FieldName × Json)
  | obj fields => fields
  | _ => []

/-- The fields of an object whose names are texts. -/
def textFields (v : Json) : List (String × Json) :=
  v.fields.filterMap fun f => f.1.text?.map fun name => (name, f.2)

/-- The object with these fields. -/
def object (fields : List (String × Json)) : Json := obj (fields.map fun f => (.text f.1, f.2))

/-- The elements of an array. -/
def items? : Json → Option (List Json)
  | arr items => some items
  | _ => none

/-- The text of a string. -/
def text? : Json → Option String
  | str s => some s
  | _ => none

/-- The text of some code points. -/
def ofPoints (points : List Nat) : Json :=
  if points.any Text.isSurrogate then halves points else str (String.ofList (points.map Char.ofNat))

/-- A name as a string. -/
def ofName : FieldName → Json
  | .text s => str s
  | .halves points => halves points

/-- The members of a value that can be gone through: the items of an array, the names of an object,
the characters of a text. -/
def members? : Json → Option (List Json)
  | arr items => some items
  | obj fields => some (fields.map fun f => ofName f.1)
  | str s => some (s.toList.map fun c => str (String.ofList [c]))
  | halves points => some (points.map fun n => ofPoints [n])
  | _ => none

/-! Equality -/

mutual

/-- Are two values the same? -/
def same : Json → Json → Bool
  | null, null => true
  | bool a, bool b => a == b
  | int a, int b => a == b
  | double a, double b => a == b
  | str a, str b => a == b
  | halves a, halves b => a == b
  | arr a, arr b => sameItems a b
  | obj a, obj b => sameFields a b
  | _, _ => false

/-- Are two lists of values the same? -/
def sameItems : List Json → List Json → Bool
  | [], [] => true
  | a :: as, b :: bs => same a b && sameItems as bs
  | _, _ => false

/-- Are two lists of named values the same? -/
def sameFields : List (FieldName × Json) → List (FieldName × Json) → Bool
  | [], [] => true
  | (m, a) :: as, (n, b) :: bs => m == n && same a b && sameFields as bs
  | _, _ => false

end

mutual

theorem same_iff (a b : Json) : same a b = true ↔ a = b := by
  cases a <;> cases b <;> simp [same, sameItems_iff, sameFields_iff]

theorem sameItems_iff (a b : List Json) : sameItems a b = true ↔ a = b := by
  cases a with
  | nil => cases b <;> simp [sameItems]
  | cons a as => cases b <;> simp [sameItems, same_iff a, sameItems_iff as]

theorem sameFields_iff (a b : List (FieldName × Json)) : sameFields a b = true ↔ a = b := by
  match a, b with
  | [], [] | [], _ :: _ | _ :: _, [] => simp [sameFields]
  | (m, a) :: as, (n, b) :: bs => simp [sameFields, same_iff a, sameFields_iff as, and_assoc]

end

instance : DecidableEq Json := fun a b => decidable_of_iff _ (same_iff a b)

end Json

end Monomorph
