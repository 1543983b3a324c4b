import Monomorph.FileSystem
import Monomorph.Notice

/-!
What a build asks of its surroundings. A build is written for any monad that answers; a workspace, which
is a file system with a current directory and the notices given so far, answers purely, and there each
operation is the one on file systems.
-/

namespace Monomorph

/-- The operations on files that a build needs, and a place for its notices. -/
class Files (m : Type → Type) where
  /-- The current directory. -/
  here : m Path
  /-- The kind of what a path names. -/
  kind? : Path → m (Except FileFault (Option FileKind))
  /-- The names that lead from a directory to each file below it. -/
  below : Path → m (Except FileFault (List (List String)))
  /-- The content of a file. -/
  read : Path → m (Except FileFault ByteArray)
  /-- Writes a file. -/
  write : Path → ByteArray → m (Except FileFault Unit)
  /-- Makes a directory and the missing ones above it. -/
  makeDirectories : Path → m (Except FileFault Unit)
  /-- Removes a file. -/
  remove : Path → m (Except FileFault Unit)
  /-- Moves a file over what the second path names. -/
  rename : Path → Path → m (Except FileFault Unit)
  /-- Gives a notice. -/
  note : Notice → m Unit

/-- A file system with a current directory, and the notices given so far. -/
structure Workspace where
  files : FileSystem
  here : Place
  notices : List Notice := []

namespace Workspace

/-- The workspace after an operation that may change its files. -/
def after (w : Workspace) (changed : Except FileFault FileSystem) : Except FileFault Unit × Workspace :=
  match changed with
  | .ok files => (.ok (), { w with files })
  | .error fault => (.error fault, w)

end Workspace

instance : Files (StateM Workspace) where
  here := fun w => (⟨.slash, w.here⟩, w)
  kind? path := fun w => (w.files.kind? w.here path, w)
  below path := fun w => (w.files.below w.here path, w)
  read path := fun w => (w.files.read w.here path, w)
  write path content := fun w => w.after (w.files.write w.here path content)
  makeDirectories path := fun w =>
    let (answer, files) := w.files.makeDirectories w.here path
    (answer, { w with files })
  remove path := fun w => w.after (w.files.remove w.here path)
  rename source target := fun w => w.after (w.files.rename w.here source target)
  note n := fun w => ((), { w with notices := w.notices ++ [n] })

end Monomorph
