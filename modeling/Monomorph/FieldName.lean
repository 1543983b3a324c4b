import Monomorph.Text.Quoted

/-!
Names of fields in documents. A name is a text, or, since JSON can escape half of a surrogate pair, a
sequence of code points that is none.
-/

namespace Monomorph

/-- The name of a field. -/
inductive FieldName where
  | text (s : String)
  /-- A name in which a surrogate stands alone, as its code points. No `String` holds it. -/
  | halves (points : List Nat)
  deriving DecidableEq, Repr, Inhabited

instance : Coe String FieldName := ⟨.text⟩

namespace FieldName

/-- The name with these code points. -/
def ofPoints (points : List Nat) : FieldName :=
  if points.any Text.isSurrogate then halves points else text (String.ofList (points.map Char.ofNat))

/-- The code points of a name. -/
def points : FieldName → List Nat
  | text s => s.toList.map Char.toNat
  | halves points => points

/-- The text of a name, if it is one. -/
def text? : FieldName → Option String
  | text s => some s
  | halves _ => none

/-- A name as messages show it. -/
def shown : FieldName → String
  | text s => Text.shown s
  | halves points => Text.shownPoints points

/-- The value of the field with a name. -/
def valueOf? {α : Type} (name : String) (fields : List (FieldName × α)) : Option α :=
  fields.lookup (text name)

end FieldName

end Monomorph
