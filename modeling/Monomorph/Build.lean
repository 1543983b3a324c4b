import Monomorph.Build.Commit

/-!
Builds: from annotated sources to artifacts. A source that fails is noted and leaves the others alone.
`Build.generate` builds sources one by one, `Build.assemble` builds them together with the fragment that
makes them one module.
-/

namespace Monomorph.Build

variable {m : Type → Type} [Monad m] [Files m]

/-- Resolves and expands a declaration. -/
def expanded (c : Config) (d : Declaration) : Except BuildError ExpandedFunction := do
  let d ← (d.resolve).mapError .resolution
  let table ← (d.expand c.limit).mapError .expansion
  return ⟨d, table⟩

/-- The function of an annotated text. -/
def expandText (c : Config) (path : Path) (text : String) :
    m (Except BuildError ExpandedFunction) := do
  match scan text (some path) with
  | .error e => return .error (.declaration e)
  | .ok s =>
    s.notices.forM Files.note
    match expanded c s.declaration with
    | .error e => return .error e
    | .ok f =>
      Files.note (.expanded path.toString f.table.combinations.length f.name)
      return .ok f

/-- The function of a source. A path that can name nothing ends the build. -/
def expandFile (c : Config) (path : Path) :
    m (Except FileFault (Except BuildError ExpandedFunction)) := do
  match ← Source.read path with
  | .error (.unreadable .nameless) => return .error .nameless
  | .error fault => return .ok (.error (.source path fault))
  | .ok text => return .ok (← expandText c path text)

/-- The outcome of a source that has failed, which is noted. -/
def failed (source : Path) (e : BuildError) : m Outcome := do
  Files.note (.failed source e.message)
  return ⟨source, .error e, []⟩

/-- The artifacts of a source, before anything is written. -/
def prepare (c : Config) (source : Path) : m (Except FileFault (Except BuildError Product)) := do
  return (← expandFile c source).map fun expanded => do
    let f ← expanded
    return ⟨f, ← (Artifact.all c f).mapError .emission⟩

/-- Writes the artifacts of a source, if they are to be written. -/
def settle (c : Config) (write : Bool) (source : Path) (p : Product) :
    m (Except FileFault Outcome) := do
  if write then
    match ← commit c p.artifacts with
    | .error fault => return .error fault
    | .ok (.ok written) => return .ok ⟨source, .ok p, written⟩
    | .ok (.error e) => return .ok (← failed source e)
  else return .ok ⟨source, .ok p, []⟩

/-- Builds one source. Its product is entered in the ledger before its artifacts are written, and
fails if the ledger does not take it. -/
def processWith (c : Config) (write : Bool)
    (enter : Ledger → Path → Product → Except BuildError Ledger) (l : Ledger) (source : Path) :
    m (Except FileFault Outcome × Ledger) := do
  match ← prepare c source with
  | .error fault => return (.error fault, l)
  | .ok (.error e) => return (.ok (← failed source e), l)
  | .ok (.ok p) =>
    match enter l source p with
    | .error e => return (.ok (← failed source e), l)
    | .ok l => return (← settle c write source p, l)

/-- Builds sources in order. -/
def processAll (c : Config) (write : Bool)
    (enter : Ledger → Path → Product → Except BuildError Ledger) (l : Ledger) :
    List Path → m (Except FileFault (List Outcome))
  | [] => return .ok []
  | source :: rest => do
    match ← processWith c write enter l source with
    | (.error fault, _) => return .error fault
    | (.ok o, l) => return (← processAll c write enter l rest).map (o :: ·)

/-- Builds one source on its own. -/
def process (c : Config) (write : Bool) (source : Path) : m (Except FileFault Outcome) := do
  return (← processWith c write (fun l _ _ => .ok l) {} source).1

/-- Builds several sources. One whose artifacts an earlier one has fails. -/
def generate (c : Config) (write : Bool) (sources : List Path) :
    m (Except FileFault (List Outcome)) :=
  processAll c write (fun l source p => l.claim source p.artifacts) {} sources

/-- A module that has been built. -/
structure ModuleBuild where
  name : String
  outcomes : List Outcome
  /-- The file that defines the module. -/
  fragment : Artifact

namespace ModuleBuild

/-- The functions of the module. -/
def functions (b : ModuleBuild) : List ExpandedFunction := b.outcomes.filterMap (·.function?)

/-- The sources that have failed. -/
def failures (b : ModuleBuild) : List Path :=
  (b.outcomes.filter fun o => !o.isOk).map (·.source)

end ModuleBuild

/-- The name of a module: the one asked for, unless it is empty, or else the configured one. -/
def nameOf (c : Config) (asked : Option String) : String :=
  match asked with
  | none => c.moduleName
  | some name => if name == "" then c.moduleName else name

/-- Builds the sources of a module and its fragment. A source fails if an earlier one defines its
function or has one of its artifacts. -/
def assemble (c : Config) (write : Bool) (asked : Option String) (sources : List Path) :
    m (Except FileFault (Except BuildError ModuleBuild)) := do
  let name := nameOf c asked
  if !Text.isIdentifier name then return .ok (.error (.moduleName name))
  else
    match ← processAll c write Ledger.define {} sources with
    | .error fault => return .error fault
    | .ok outcomes =>
      let fragment := Artifact.moduleFragment c name (outcomes.filterMap (·.function?))
      let build : ModuleBuild := ⟨name, outcomes, fragment⟩
      match ← if write then commit c [fragment] else pure (.ok (.ok [])) with
      | .error fault => return .error fault
      | .ok (.error e) => return .ok (.error e)
      | .ok (.ok _) =>
        Files.note (.built name build.functions.length build.failures.length)
        return .ok (.ok build)

end Monomorph.Build
