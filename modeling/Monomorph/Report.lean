import Monomorph.Expansion
import Monomorph.Resolution

/-!
Reports: failures as users see them, with a numeric code, a message, and the details that a caller
can ask for. The errors of the single stages are reported through these.
-/

namespace Monomorph

open Text

/-- The numeric codes of reports. -/
def Report.generalCode : Int := 1
def Report.internalCode : Int := 2
def Report.fileCode : Int := 3
def Report.declarationCode : Int := 10
def Report.referenceCode : Int := 20
def Report.configurationCode : Int := 30
def Report.mismatchCode : Int := 40
def Report.releasedCode : Int := 50

/-- The messages for codes alone. -/
def Report.standardMessages : List (Int × String) := [
  (0, "Success"), (generalCode, "Unknown error"), (internalCode, "Internal error"),
  (fileCode, "File could not be read or written"), (declarationCode, "Malformed declaration"),
  (referenceCode, "Unresolved argument reference"), (configurationCode, "Invalid configuration"),
  (mismatchCode, "No specialization matches the argument types"),
  (releasedCode, "View used after release")]

/-- The message for a code alone. -/
def Report.standardMessage (code : Label) : String :=
  ((standardMessages.find? fun m => code.same m.1).map (·.2)).getD
    s!"Unknown error (code={code.shown})"

/-- A call whose argument types no combination accepts. -/
structure Mismatch where
  function : Label
  /-- The first argument that no combination accepts after the ones before it. -/
  argument : Label
  actual : Label
  accepted : List (List String)
  names : List String
  deriving DecidableEq, Repr

/-- The wording of a mismatch: the offending argument and every accepted combination. -/
def Mismatch.message (m : Mismatch) : String :=
  let header := join ", " m.names
  join "\n" <|
    [m.function.shown ++ "(): no specialization for argument '" ++ m.argument.shown ++ "' of type " ++
        m.actual.shown ++ ".",
      if header == "" then "Accepted combinations:" else s!"Accepted combinations ({header}):"] ++
    m.accepted.map fun row => "    (" ++ join ", " row ++ ")"

/-- A failure as it is reported. One that is about no place can go without a text of its own. Codes and
details are labels, since a caller who makes a report may give any value. -/
inductive Report where
  | general (text : Option String) (code : Label)
  | configuration (text : Option String) (code : Label)
  | released (text : Option String) (code : Label)
  | file (text : Option String) (path : Option Path) (offset : Label)
  | declaration (text : Option String) (location : Option Location) (construct : Label)
  | reference (text : Option String) (location : Option Location) (argument target : Label)
  | mismatch (m : Mismatch)
  deriving DecidableEq, Repr

namespace Report

/-- The numeric code. -/
def code : Report → Label
  | general _ c | configuration _ c | released _ c => c
  | file .. => fileCode
  | declaration .. => declarationCode
  | reference .. => referenceCode
  | mismatch _ => mismatchCode

/-- A text after the place it is about, or the message for a code alone if there is neither. -/
def placed {α : Type} [ToString α] (place : Option α) (text : Option String) (code : Int) : String :=
  match place with
  | some p => toString p ++ ": " ++ text.getD Label.absent.shown
  | none => text.getD (standardMessage code)

/-- The full message. -/
def message : Report → String
  | general text code | configuration text code | released text code =>
    text.getD (standardMessage code)
  | file text path _ => placed path text fileCode
  | declaration text location _ => placed location text declarationCode
  | reference text location _ _ => placed location text referenceCode
  | mismatch m => m.message

/-- The report of a faulty declaration. -/
def ofDeclaration (e : DeclarationError) : Report :=
  declaration e.fault.message (some e.location) e.construct

/-- The report of a faulty reference. -/
def ofReference (e : ReferenceError) : Report :=
  reference e.message (some e.location) e.argument e.constraint.reference

end Report

end Monomorph
