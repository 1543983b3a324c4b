import Monomorph.Config
import Monomorph.Files
import Monomorph.Text.Utf8
import Monomorph.Toml.Reader

/-!
Where a configuration comes from: a path that is given, else the path in an environment variable, else
the nearest configuration file from the current directory upwards, else nowhere. The project root is
the directory of the file, or the current directory.
-/

namespace Monomorph

/-- Why no configuration could be loaded. -/
inductive LoadError where
  /-- The file cannot be read. -/
  | file (fault : FileFault)
  /-- The file holds no text. -/
  | undecodable (byte : Text.Utf8.BadByte)
  /-- The text is no document. -/
  | malformed (path : Path)
  /-- The text holds an integer with too many digits. -/
  | longInteger
  /-- The values of the text nest too deep. -/
  | tooDeep
  /-- The document is no configuration. -/
  | config (e : ConfigError)
  /-- The file given does not exist. -/
  | missing (path : Path)
  /-- The file that the environment names does not exist. -/
  | variableMissing (path : Path)
  deriving Repr

/-- Is the configuration at fault, rather than the file it should come from? -/
def LoadError.isConfiguration : LoadError → Bool
  | .malformed _ => true
  | .config e => !e.breaksOff
  | .missing _ => true
  | .variableMissing _ => true
  | _ => false

/-- The environment variable that names a configuration file. -/
def Config.variableName : String := "NPEGEN_CONFIG"

/-- The wording of an error; a document that cannot be read is only named. -/
def LoadError.message : LoadError → String
  | .file fault => fault.message
  | .undecodable byte => s!"no text at offset {byte.offset}"
  | .malformed path => s!"{path}: <toml>"
  | .longInteger => "an integer has too many digits"
  | .tooDeep => "values nest too deep"
  | .config e => e.message
  | .missing path => s!"Configuration file not found: {path}"
  | .variableMissing path => s!"{Config.variableName} points to missing file {path}"

namespace Config

/-- How many directories are looked at for a configuration file. -/
def searchDepth : Nat := 10

variable {m : Type → Type} [Monad m] [Files m]

/-- The first of some directories that holds a configuration file. -/
def firstOf : List Path → m (Except FileFault (Option Path))
  | [] => return .ok none
  | directory :: rest => do
    match ← Files.kind? (directory.child fileName) with
    | .error fault => return .error fault
    | .ok (some _) => return .ok (some (directory.child fileName))
    | .ok none => firstOf rest

/-- The configuration file in a directory or, if there is none, in the nearest one above it. -/
def find? (start : Path) : m (Except FileFault (Option Path)) := do
  if !start.isNameable then return .error .nameless
  firstOf ((start.resolvedFrom (← Files.here)).ancestors searchDepth)

/-- The configuration that a text gives for the project of its file. -/
def ofText (path : Path) (text : String) : Except LoadError Config :=
  match Toml.read text with
  | .error .malformed => .error (.malformed path)
  | .error .longInteger => .error .longInteger
  | .error .tooDeep => .error .tooDeep
  | .ok document => (ofDocument path.parent document).mapError .config

/-- The configuration that the content of a file gives. -/
def ofContent (path : Path) (content : Except FileFault ByteArray) : Except LoadError Config :=
  match content with
  | .error fault => .error (.file fault)
  | .ok bytes =>
    match Text.Utf8.decode bytes with
    | .error byte => .error (.undecodable byte)
    | .ok text => ofText path text

/-- Reads a configuration file, which must exist. -/
def ofFile (path : Path) (absent : LoadError) : m (Except LoadError Config) := do
  match ← Files.kind? path with
  | .error fault => return .error (.file fault)
  | .ok none => return .error absent
  | .ok (some _) => return ofContent path (← Files.read path)

/-- Loads the configuration, given a path and the value of the environment variable. An empty value
counts as none. -/
def load (given : Option Path) (environment : Option String) : m (Except LoadError Config) := do
  match given, (environment.filter (· != "")).map Path.ofString with
  | some path, _ => ofFile path (.missing path)
  | none, some path => ofFile path (.variableMissing path)
  | none, none =>
    match ← find? ⟨.relative, []⟩ with
    | .error fault => return .error (.file fault)
    | .ok (some path) => ofFile path (.missing path)
    | .ok none => return .ok { projectRoot := ← Files.here }

end Config

end Monomorph
