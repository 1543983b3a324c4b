import Monomorph.Files
import Monomorph.Text.Hex
import Monomorph.Text.Utf8

/-!
Annotated sources as files: reading one, and finding those below a directory.
-/

namespace Monomorph

/-- Why a source gives no text. -/
inductive SourceFault where
  | unreadable (fault : FileFault)
  | undecodable (byte : Text.Utf8.BadByte)
  deriving DecidableEq, Repr

/-- The wording of a fault of a source. -/
def SourceFault.message : SourceFault → String
  | unreadable fault => s!"cannot read source: {fault.message}"
  | undecodable byte =>
    let digits := Text.Hex.encode [byte.value]
    s!"cannot decode byte 0x{digits} at offset {byte.offset}"

/-- The offset of the byte that a fault is about. -/
def SourceFault.offset? : SourceFault → Option Nat
  | unreadable _ => none
  | undecodable byte => some byte.offset

namespace Source

/-- The text of a source, every line end made a newline. -/
def ofContent (content : Except FileFault ByteArray) : Except SourceFault String :=
  match content with
  | .error fault => .error (.unreadable fault)
  | .ok bytes =>
    match Text.Utf8.decode bytes with
    | .error byte => .error (.undecodable byte)
    | .ok s => .ok (String.ofList (Text.unixNewlinesOf s.toList))

/-- Reads a source. -/
def read {m : Type → Type} [Monad m] [Files m] (path : Path) : m (Except SourceFault String) := do
  return ofContent (← Files.read path)

/-- Which files below a directory count as sources. -/
structure Rule where
  /-- The suffixes that a source may have. -/
  suffixes : List String := [".cpp", ".cc", ".cxx"]
  /-- Names that neither a source nor a directory above it may have. -/
  excluded : List String := ["__pycache__", ".git", "build"]
  deriving DecidableEq, Repr

/-- The endings of generated files that look like sources. -/
def generatedEndings : List String := [".npe.cpp", "_module.cpp"]

/-- Does a file count as a source, given the names that lead to it? -/
def Rule.admits (rule : Rule) (names : List String) : Bool :=
  let path : Path := ⟨.relative, names⟩
  rule.suffixes.contains path.suffix && !names.any rule.excluded.contains &&
    !generatedEndings.any (Text.endsWith path.name)

/-- The sources below a directory, in the order of their paths. -/
def find {m : Type → Type} [Monad m] [Files m] (directory : Path) (rule : Rule := {}) :
    m (Except FileFault (List Path)) := do
  return (← Files.below directory).map fun files =>
    let paths := (files.filter rule.admits).map fun names =>
      (⟨directory.root, directory.parts ++ names⟩ : Path)
    paths.mergeSort Path.le

end Source

end Monomorph
