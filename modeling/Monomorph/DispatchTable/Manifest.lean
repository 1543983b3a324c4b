import Monomorph.DispatchTable
import Monomorph.Json.Printer
import Monomorph.Json.Reader

/-!
Manifests: dispatch tables as JSON text. A manifest holds types by their tags and combinations in
order, so the numbering and the argument names of the combinations are found again when it is read.
-/

namespace Monomorph

/-- Why there is no manifest. -/
inductive ManifestFault where
  /-- The text is not read as JSON. -/
  | unread (fault : Json.ReadFault)
  /-- A field is missing. -/
  | missing (field : String)
  /-- A value has the wrong shape: no object, no list, or no usable key. -/
  | wrongShape
  /-- A type is given by something that is no text. -/
  | notText
  deriving DecidableEq, Repr

namespace DispatchTable

/-- A default as a manifest shows it. No default is `null`. -/
def defaultJson (default : Option Label) : Json := (default.map Label.toJson).getD .null

/-- The default that a manifest shows. -/
def defaultOfJson : Json → Option Label
  | .null => none
  | v => some (.ofJson v)

/-- The manifest of a table. -/
def toManifest (t : DispatchTable) : Json :=
  .obj [
    ("function", t.function.toJson),
    ("arguments", .arr ((t.names.zip t.paddedDefaults).map fun a =>
      .obj [("name", a.1.toJson), ("default", defaultJson a.2)])),
    ("dispatch_positions", .arr (t.positions.map Position.toJson)),
    ("combinations", .arr (t.combinations.map fun c =>
      .obj [("identifier", c.identifier.toJson), ("types", .arr (c.tags.map .str))]))]

/-- The text of a manifest: two spaces per level, escaped to ASCII, one newline at the end. -/
def toJson (t : DispatchTable) : String := t.toManifest.print ⟨some 2, true, false⟩ ++ "\n"

/-- A field of an object. -/
def requireField (name : String) : Json → Except ManifestFault Json
  | .obj fields =>
    match FieldName.valueOf? name fields with
    | some v => .ok v
    | none => .error (.missing name)
  | _ => .error .wrongShape

/-- The members of a value that can be gone through. -/
def requireMembers (v : Json) : Except ManifestFault (List Json) :=
  match v.members? with
  | some members => .ok members
  | none => .error .wrongShape

/-- A type by its tag. A list or an object cannot even be looked up. -/
def requireType : Json → Except ManifestFault ConcreteType
  | .str s => .ok (.ofTag s)
  | .halves points => .ok (.ofTag (String.ofList (points.map Text.charOf)))
  | .arr _ | .obj _ => .error .wrongShape
  | _ => .error .notText

/-- The default of an argument; there is none if the field is absent. -/
def readDefault : Json → Except ManifestFault (Option Label)
  | .obj fields => .ok (defaultOfJson ((FieldName.valueOf? "default" fields).getD .null))
  | _ => .error .wrongShape

/-- The combinations of a manifest, numbered from `index` on. -/
def readCombinations (names : List Label) (index : Nat) :
    List Json → Except ManifestFault (List Combination)
  | [] => .ok []
  | entry :: rest => do
    let types ← (← requireMembers (← requireField "types" entry)).mapM requireType
    let identifier ← requireField "identifier" entry
    return ⟨index, names, types, .ofJson identifier⟩ :: (← readCombinations names (index + 1) rest)

/-- The table of a manifest. -/
def ofManifest (data : Json) : Except ManifestFault DispatchTable := do
  let arguments ← requireMembers (← requireField "arguments" data)
  let names := (← arguments.mapM (requireField "name")).map Label.ofJson
  let entries ← requireMembers (← requireField "combinations" data)
  let combinations ← readCombinations names 0 entries
  let function ← requireField "function" data
  let positions ← requireMembers (← requireField "dispatch_positions" data)
  let defaults ← arguments.mapM readDefault
  return ⟨.ofJson function, names, combinations, positions.map Position.ofJson, defaults⟩

/-- The table of a manifest's text. -/
def ofJson (text : String) : Except ManifestFault DispatchTable :=
  match Json.read text with
  | .error fault => .error (.unread fault)
  | .ok data => ofManifest data

end DispatchTable

end Monomorph
