import Monomorph.Json.Printer
import Monomorph.Literal
import Monomorph.Text.Hex

/-!
Literal values and JSON: values that are given as JSON, and values with their types as JSON.
-/

namespace Monomorph.Literal

mutual

/-- The value that a JSON value without objects stands for; an object stands for an empty
dictionary. -/
def ofJson : Json → Literal
  | .null => nothing
  | .bool b => bool b
  | .int n => int n
  | .double x => double x
  | .str s => text s
  | .halves points => halves points
  | .arr items => list (ofItems items)
  | .obj _ => dict []

/-- The values that the elements of an array stand for. -/
def ofItems : List Json → List Literal
  | [] => []
  | v :: rest => ofJson v :: ofItems rest

end

mutual

/-- A JSON value as something that can be compared with `same`: an array as a tuple. -/
def memberOf : Json → Literal
  | .arr items => tuple (memberItems items)
  | v => ofJson v

/-- The elements of an array as things that can be compared. -/
def memberItems : List Json → List Literal
  | [] => []
  | v :: rest => memberOf v :: memberItems rest

end

/-- The name of the class of a literal. -/
def className : Literal → String
  | nothing => "NoneType"
  | ellipsis => "ellipsis"
  | bool _ => "bool"
  | int _ => "int"
  | double _ => "float"
  | complex .. => "complex"
  | text _ => "str"
  | halves _ => "str"
  | bytes _ => "bytes"
  | list _ => "list"
  | tuple _ => "tuple"
  | set _ => "set"
  | dict _ => "dict"
  | object name => name

/-- The members of a set in the order of their texts. -/
def sorted (members : List Json) : List Json :=
  let printed := members.map fun v => (v.print ⟨none, true, true⟩, v)
  (printed.mergeSort fun a b => decide (a.1 ≤ b.1)).map (·.2)

mutual

/-- A value with its type: the text of a number, a truth value or bytes in hexadecimal digits, the
items of a collection, or nothing more. -/
def toJson (v : Literal) : Json :=
  let typed (more : List (FieldName × Json)) : Json := .obj (("type", .str v.className) :: more)
  let valued (s : String) : Json := typed [("value", .str s)]
  match v with
  | bool b => valued (if b then "True" else "False")
  | int n => valued (toString n)
  | double x => valued x.toText
  | complex re im => valued (complexText re im)
  | text s => valued s
  | halves points => typed [("value", .halves points)]
  | bytes bs => valued (Text.Hex.encode bs)
  | list xs | tuple xs => typed [("items", .arr (jsonItems xs))]
  | set xs => typed [("items", .arr (sorted (jsonItems xs)))]
  | dict entries => typed [("items", .arr (jsonEntries entries))]
  | nothing | ellipsis | object _ => typed []

/-- The items of a collection with their types. -/
def jsonItems : List Literal → List Json
  | [] => []
  | v :: rest => toJson v :: jsonItems rest

/-- The entries of a dictionary with their types. -/
def jsonEntries : List (Literal × Literal) → List Json
  | [] => []
  | (key, value) :: rest => .arr [toJson key, toJson value] :: jsonEntries rest

end

end Monomorph.Literal
