import Monomorph.Config.Setting
import Monomorph.Path

/-!
The configuration of a build: where sources are and artifacts go, and how to generate. A document
may leave out anything; what it gives is checked, except for the switches, which are kept as given.
-/

namespace Monomorph

open Text

/-- Why a document is no configuration. -/
inductive ConfigError where
  /-- The limit is no integer. -/
  | limitKind (given : Setting)
  /-- The limit is not positive. -/
  | limitSize (given : Int)
  /-- The limit is refused, and an integer in it has too many digits to be shown. -/
  | limitLength
  /-- The module name is a text but no identifier. -/
  | moduleName (given : Setting)
  /-- The module name is no text. -/
  | moduleNameKind
  /-- A section is no table. -/
  | sectionKind
  /-- A path is no text. -/
  | pathKind
  deriving Repr

/-- The wording of a configuration error. -/
def ConfigError.message : ConfigError → String
  | limitKind v => "generation.max_combinations must be an integer, got " ++ v.shown
  | limitSize n => s!"generation.max_combinations must be positive, got {n}"
  | limitLength => "an integer has too many digits"
  | moduleName v => "generation.module_name must be an identifier, got " ++ v.shown
  | moduleNameKind => "a module name must be a text"
  | sectionKind => "a section must be a table"
  | pathKind => "a path must be a text"

/-- Does the check break off? Something of the wrong kind altogether cannot even be checked, and what
cannot be shown cannot be reported. -/
def ConfigError.breaksOff : ConfigError → Bool
  | limitLength => true
  | moduleNameKind => true
  | sectionKind => true
  | pathKind => true
  | _ => false

/-- The configuration of a build. -/
structure Config where
  projectRoot : Path
  sourceDir : Path := Path.ofString "src"
  outputDir : Path := Path.ofString "build/npegen"
  overwrite : Setting := .bool true
  /-- The most combinations a function may have; `none` is no limit. -/
  limit : Option Int := some 256
  emitStubs : Setting := .bool true
  emitManifest : Setting := .bool true
  moduleName : String := "npe_module"
  deriving Repr

namespace Config

/-- The file name of a configuration. -/
def fileName : String := "npegen.toml"

/-- A path of the project as seen from where the project root is seen. -/
def locate (c : Config) (p : Path) : Path := c.projectRoot.append p

/-- Where the sources are. -/
def sources (c : Config) : Path := c.locate c.sourceDir

/-- Where the artifacts go. -/
def output (c : Config) : Path := c.locate c.outputDir

/-- A section of a document, empty if it is missing. -/
def section? (name : String) (document : List (FieldName × Setting)) :
    Except ConfigError (List (FieldName × Setting)) :=
  match FieldName.valueOf? name document with
  | none => .ok []
  | some (.table fields) => .ok fields
  | some _ => .error .sectionKind

/-- A path of a section. -/
def path? (name : String) (default : Path) (fields : List (FieldName × Setting)) :
    Except ConfigError Path :=
  match FieldName.valueOf? name fields with
  | none => .ok default
  | some (.text s) => .ok (Path.ofString s)
  | some (.halves points) => .ok (Path.ofString (String.ofList (points.map Text.charOf)))
  | some _ => .error .pathKind

/-- Refuses a limit, if it can be shown. -/
def refuse (given : Setting) (e : ConfigError) : ConfigError :=
  if given.isShowable then e else .limitLength

/-- The limit that a setting stands for. Zero switches the limit off, as does a setting without a
value. -/
def limitOf : Setting → Except ConfigError (Option Int)
  | .null => .ok none
  | .bool false => .ok none
  | .int n =>
    if n = 0 then .ok none
    else if n < 1 then .error (refuse (.int n) (.limitSize n)) else .ok (some n)
  | .double x => if x.isZero then .ok none else .error (.limitKind (.double x))
  | v => .error (refuse v (.limitKind v))

/-- The module name that a setting stands for. -/
def moduleNameOf : Setting → Except ConfigError String
  | .text s => if isIdentifier s then .ok s else .error (.moduleName (.text s))
  | .halves points => .error (.moduleName (.halves points))
  | _ => .error .moduleNameKind

/-- The configuration that a document gives for a project. -/
def ofDocument (root : Path) (document : List (FieldName × Setting)) : Except ConfigError Config := do
  let standard : Config := { projectRoot := root }
  let paths ← section? "paths" document
  let sourceDir ← path? "source_dir" standard.sourceDir paths
  let outputDir ← path? "output_dir" standard.outputDir paths
  let generation ← section? "generation" document
  let limit ← limitOf ((FieldName.valueOf? "max_combinations" generation).getD (.int 256))
  let moduleName ←
    moduleNameOf ((FieldName.valueOf? "module_name" generation).getD (.text standard.moduleName))
  return {
    projectRoot := root, sourceDir, outputDir, limit, moduleName
    overwrite := (FieldName.valueOf? "overwrite" generation).getD standard.overwrite
    emitStubs := (FieldName.valueOf? "emit_stubs" generation).getD standard.emitStubs
    emitManifest := (FieldName.valueOf? "emit_manifest" generation).getD standard.emitManifest }

end Config

end Monomorph
