import Monomorph.Build
import Monomorph.Command.Line
import Monomorph.Config.Location

/-!
The command: reads a line, loads the configuration, applies what the line overrides, and carries out
what it asks for. What it prints is part of the answer.
-/

namespace Monomorph.Command

/-- What a command prints and the code it exits with. -/
structure Output where
  exit : Nat
  /-- The lines on standard output. -/
  out : List String := []
  /-- The lines on standard error. -/
  err : List String := []
  deriving DecidableEq, Repr

/-- Lines as a text. -/
def unlines (lines : List String) : String := Text.join "" (lines.map (· ++ "\n"))

/-- What becomes of a line. -/
inductive Answer where
  /-- The line is no command. -/
  | usage
  /-- The line asks for help. -/
  | help
  /-- The configuration cannot be read or has the wrong shape. -/
  | unloaded (e : LoadError)
  /-- An operation on files went wrong where nothing could be done about it. -/
  | broken (fault : FileFault)
  /-- An option that has lost its value is needed as a path. -/
  | pathless
  | done (o : Output)
  deriving Repr

/-- The output for a configuration that cannot be used. -/
def misconfigured (message : String) : Output :=
  { exit := 2, err := [s!"Configuration error: {message}"] }

/-- The line for a source that has failed. -/
def failureLine (source : Path) (e : BuildError) : String :=
  s!"Error processing {source}: {e.message}"

/-- What is printed about the outcomes of a build: the files written, if wanted, the errors, and how
many of each there are. -/
def summary (isVerbose : Bool) (outcomes : List Outcome) : Output :=
  let written := (outcomes.filter (·.isOk)).flatMap (·.written)
  let errors := outcomes.filterMap fun o => match o.result with
    | .ok _ => none
    | .error e => some (failureLine o.source e)
  let listed := if isVerbose then written.map fun p => s!"  Generated: {p}" else []
  { exit := if errors.isEmpty then 0 else 1
    out := listed ++ ["", s!"Generated {written.length} files, {errors.length} errors"]
    err := errors }

/-- What is printed about an expanded function: its signature, how it dispatches, and its combinations. -/
def inspection (f : ExpandedFunction) : List String :=
  let dispatched := f.table.positions.filterMap fun p => (p.elementIn f.table.names).toOption
  let names := Text.join ", " (dispatched.map (·.shown))
  let count := f.table.combinations.length
  let shown := if names == "" then "nothing" else names
  [f.declaration.signature, s!"{count} specialization(s), dispatch on: {shown}"] ++
    f.table.combinations.map fun c =>
      s!"  [{c.index}] {c.identifier.shown}: " ++ Text.join ", " c.tags

variable {m : Type → Type} [Monad m] [Files m]

/-- The sources that a path stands for: a file for itself, a directory for the sources below it. -/
def sourcesOf (path : Path) : m (Except FileFault (List Path)) := do
  match ← Files.kind? path with
  | .error fault => return .error fault
  | .ok (some .file) => return .ok [path]
  | .ok _ => Source.find path

/-- The sources that some paths stand for. -/
def collect : List (Option Path) → m (Except Answer (List Path))
  | [] => return .ok []
  | none :: _ => return .error .pathless
  | some path :: rest => do
    match ← sourcesOf path with
    | .error fault => return .error (.broken fault)
    | .ok found => return (← collect rest).map (found ++ ·)

/-- The sources that a line asks for. -/
def sources (c : Config) (inputs : List (Option Path)) : m (Except Answer (List Path)) := do
  if inputs.isEmpty then return (← Source.find c.sources).mapError .broken else collect inputs

/-- The configuration with what a line overrides. -/
def override (line : Line) (here : Path) (c : Config) : Except ConfigError Config := do
  let c := if line.keepsExisting then { c with overwrite := .bool false } else c
  let c ← match line.limit with
    | none => .ok c
    | some n => (Config.limitOf (.int n)).map fun limit => { c with limit }
  return match line.output with
    | none => c
    | some path => { c with outputDir := path.resolvedFrom here }

/-- The answer if there is nothing to build. -/
def nothingFound : Answer := .done { exit := 1, out := ["No annotated sources found."] }

/-- Generates from the sources of a line. -/
def generate (c : Config) (isVerbose : Bool) (inputs : List (Option Path)) : m Answer := do
  match ← sources c inputs with
  | .error answer => return answer
  | .ok [] => return nothingFound
  | .ok found =>
    match ← Build.generate c true found with
    | .error fault => return .broken fault
    | .ok outcomes =>
      let o := summary isVerbose outcomes
      let head := if isVerbose then [s!"Found {found.length} source files"] else []
      return .done { o with out := head ++ o.out }

/-- Builds a module from the sources of a line. -/
def assemble (c : Config) (isVerbose : Bool) (inputs : List Path) (name : Option String) :
    m Answer := do
  match ← sources c (inputs.map some) with
  | .error answer => return answer
  | .ok [] => return nothingFound
  | .ok found =>
    match ← Build.assemble c true name found with
    | .error fault => return .broken fault
    | .ok (.error e) => return .done (misconfigured e.message)
    | .ok (.ok build) =>
      let o := summary isVerbose build.outcomes
      return .done { o with out := o.out ++ [s!"Module {build.name}: {build.fragment.path}"] }

/-- Shows what a source expands to. -/
def inspect (c : Config) (source : Path) : m Answer := do
  match ← Build.expandFile c source with
  | .error fault => return .broken fault
  | .ok (.error e) => return .done { exit := 1, err := [failureLine source e] }
  | .ok (.ok f) => return .done { exit := 0, out := inspection f }

/-- Carries out a line that has been read. -/
def perform (line : Line) (c : Config) : m Answer :=
  match line.action with
  | .generate inputs => generate c line.isVerbose inputs
  | .assemble inputs name => assemble c line.isVerbose inputs name
  | .inspect source => inspect c source

/-- Carries out a line, given the configuration file it names and the value of the environment variable
for it. -/
def runLine (line : Line) (given : Option Path) (environment : Option String) : m Answer := do
  let here ← Files.here
  match (← Config.load given environment).bind fun c =>
    (override line here c).mapError .config with
  | .ok c => if line.output.any (!·.isNameable) then return .broken .nameless else perform line c
  | .error e =>
    return if e.isConfiguration then .done (misconfigured e.message) else .unloaded e

/-- Carries out the words of a line, given the value of the environment variable for the
configuration. -/
def run (words : List String) (environment : Option String) : m Answer := do
  match Line.read words with
  | .error .usage => return .usage
  | .error .help => return .help
  | .ok line =>
    match line.config with
    | some none => return .pathless
    | some (some path) => runLine line path environment
    | none => runLine line none environment

end Monomorph.Command
