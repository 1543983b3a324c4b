import Monomorph.Config.Setting
import Monomorph.Json

/-!
Settings and JSON: every JSON value is a setting of its own kind. Of a date or a time, JSON shows the kind
alone.
-/

namespace Monomorph.Setting

mutual

/-- The setting that a JSON value gives. -/
def ofJson : Json → Setting
  | .null => null
  | .bool b => bool b
  | .int n => int n
  | .double x => double x
  | .str s => text s
  | .halves points => halves points
  | .arr items => list (ofItems items)
  | .obj fields => table (ofFields fields)

/-- The settings that the elements of an array give. -/
def ofItems : List Json → List Setting
  | [] => []
  | v :: rest => ofJson v :: ofItems rest

/-- The settings that the fields of an object give. -/
def ofFields : List (FieldName × Json) → List (FieldName × Setting)
  | [] => []
  | (name, v) :: rest => (name, ofJson v) :: ofFields rest

end

mutual

/-- A setting as JSON. -/
def toJson : Setting → Json
  | null => .null
  | bool b => .bool b
  | int n => .int n
  | double x => .double x
  | text s => .str s
  | halves points => .halves points
  | list items => .arr (jsonItems items)
  | table fields => .obj (jsonFields fields)
  | date _ => .obj [("type", .str "date")]
  | time _ => .obj [("type", .str "time")]
  | moment .. => .obj [("type", .str "datetime")]

/-- The items of a list as JSON. -/
def jsonItems : List Setting → List Json
  | [] => []
  | v :: rest => toJson v :: jsonItems rest

/-- The fields of a table as JSON. -/
def jsonFields : List (FieldName × Setting) → List (FieldName × Json)
  | [] => []
  | (name, v) :: rest => (name, toJson v) :: jsonFields rest

end

end Monomorph.Setting
