import Monomorph.Report

/-!
Reports from details: a report of some kind is made from a JSON object whose fields are its details.
A kind has details that must be given and others that may be. What is given in the place of a text is
taken as messages show it; codes and names are kept as they are.
-/

namespace Monomorph

namespace Report

/-- The kinds of reports. -/
inductive Kind where
  | general | configuration | released | file | declaration | reference | mismatch
  deriving DecidableEq, Repr

/-- The details that a kind needs, and those that it may have besides. -/
def Kind.details : Kind → List String × List String
  | general | configuration | released => ([], ["message", "code"])
  | file => (["message"], ["path", "offset"])
  | declaration => (["message"], ["location", "construct"])
  | reference => (["message"], ["location", "argument", "reference"])
  | mismatch => (["function", "argument", "actual", "accepted"], ["arg_names"])

/-- The details of a kind, if all are there that it needs and no others than it may have. -/
def Kind.detailsOf? (kind : Kind) (given : Json) : Option (List (FieldName × Json)) :=
  let (needed, further) := kind.details
  let fields := given.fields
  if needed.all (fun n => (FieldName.valueOf? n fields).isSome) &&
    fields.all (fun f => (needed ++ further).any (f.1 == .text ·)) then some fields else none

/-- The texts that a value can be gone through for. -/
def texts? (v : Json) : Option (List String) := do
  (← v.members?).mapM fun t => (Label.ofJson t).text?

/-- A place in a source: perhaps its path, a line and a column. -/
def location? : Json → Option Location
  | .arr [path, .int line, .int column] => some ⟨path.text?.map Path.ofString, line, column⟩
  | _ => none

/-- The report of a kind with these details. -/
def ofDetails? (kind : Kind) (given : Json) : Option Report := do
  let fields ← kind.detailsOf? given
  let detail (name : String) : Label := ((FieldName.valueOf? name fields).map Label.ofJson).getD .absent
  let text := if detail "message" == .absent then none else some (detail "message").shown
  let location := (FieldName.valueOf? "location" fields).bind location?
  let coded (make : Option String → Label → Report) (standard : Int) : Option Report :=
    let code : Label := if detail "code" == .absent then (standard : Label) else detail "code"
    if text.isSome || code.isKey then some (make text code) else none
  match kind with
  | .general => coded .general generalCode
  | .configuration => coded .configuration configurationCode
  | .released => coded .released releasedCode
  | .file => do
    let path ← match detail "path" with
      | .other .null => pure none
      | path => path.text?.map fun s => some (Path.ofString s)
    return .file text path (detail "offset")
  | .declaration => return .declaration text location (detail "construct")
  | .reference => return .reference text location (detail "argument") (detail "reference")
  | .mismatch => do
    let accepted ← (← (← FieldName.valueOf? "accepted" fields).members?).mapM texts?
    let names ← texts? ((FieldName.valueOf? "arg_names" fields).getD (.arr []))
    return .mismatch ⟨detail "function", detail "argument", detail "actual", accepted, names⟩

end Report

end Monomorph
