import Monomorph.Artifact
import Monomorph.Report
import Monomorph.Scan
import Monomorph.Source

/-!
What becomes of a source in a build: the artifacts of its function, or the reason why there are none.
A build keeps a ledger of the functions and outputs it has seen, so that no two sources claim the same.
-/

namespace Monomorph

/-- Why a source, or a whole module, yields nothing. -/
inductive BuildError where
  | source (path : Path) (fault : SourceFault)
  | declaration (e : DeclarationError)
  | resolution (e : ResolutionError)
  | expansion (e : ExpansionError)
  | emission (e : EmissionError)
  /-- Another source defines a function of the same name. -/
  | duplicate (source : Path) (function : String) (first : Path)
  /-- Another source has an artifact at the same path. -/
  | collision (source output owner : Path)
  /-- An artifact cannot be written. -/
  | unwritable (target : Path) (fault : FileFault)
  /-- The name of a module is no identifier. -/
  | moduleName (given : String)
  deriving Repr

namespace BuildError

/-- The report of a build error. -/
def report : BuildError → Report
  | source path fault =>
    .file fault.message (some path) ((fault.offset?.map fun n => (Int.ofNat n : Label)).getD .absent)
  | declaration e => .ofDeclaration e
  | resolution (.declaration e) => .ofDeclaration e
  | resolution (.reference e) => .ofReference e
  | resolution (.storage e) => .general e.message Report.internalCode
  | expansion (.tooMany function total sizes limit) =>
    .configuration (ExpansionError.tooMany function total sizes limit).message
      Report.configurationCode
  | expansion e => .general e.message Report.internalCode
  | emission e => .general e.message Report.internalCode
  | duplicate path function first =>
    .configuration s!"{path}: function '{function}' is already defined in {first}"
      Report.configurationCode
  | collision path output owner =>
    .configuration s!"{path}: output {output.name} is already generated from {owner}"
      Report.configurationCode
  | unwritable target fault => .file s!"cannot write: {fault.message}" (some target) .absent
  | moduleName given =>
    .configuration ("Invalid module name: " ++ Text.shown given) Report.configurationCode

/-- The wording of a build error. -/
def message (e : BuildError) : String := e.report.message

end BuildError

/-- A function with its artifacts. -/
structure Product where
  function : ExpandedFunction
  artifacts : List Artifact

/-- What becomes of a source: its product and the artifacts that were written, or an error. -/
structure Outcome where
  source : Path
  result : Except BuildError Product
  written : List Path := []

namespace Outcome

/-- Has the source a product? -/
def isOk (o : Outcome) : Bool :=
  match o.result with
  | .ok _ => true
  | .error _ => false

/-- The function of the source. -/
def function? (o : Outcome) : Option ExpandedFunction :=
  match o.result with
  | .ok p => some p.function
  | .error _ => none

/-- The artifacts of the source. -/
def artifacts (o : Outcome) : List Artifact :=
  match o.result with
  | .ok p => p.artifacts
  | .error _ => []

end Outcome

/-- The functions and outputs that a build has seen, each with its source. -/
structure Ledger where
  functions : List (String × Path) := []
  outputs : List (Path × Path) := []

namespace Ledger

/-- Enters the outputs of a source, which must be new. -/
def claim (l : Ledger) (source : Path) (artifacts : List Artifact) : Except BuildError Ledger :=
  let taken? (a : Artifact) : Option BuildError :=
    (l.outputs.lookup a.path).map fun owner => .collision source a.path owner
  match artifacts.findSome? taken? with
  | some e => .error e
  | none => .ok { l with outputs := l.outputs ++ artifacts.map fun a => (a.path, source) }

/-- Enters a function and its outputs, all of which must be new. -/
def define (l : Ledger) (source : Path) (p : Product) : Except BuildError Ledger :=
  match l.functions.lookup p.function.name with
  | some first => .error (.duplicate source p.function.name first)
  | none => do
    let l ← l.claim source p.artifacts
    return { l with functions := l.functions ++ [(p.function.name, source)] }

end Ledger

end Monomorph
