import Monomorph.Build.Outcome

/-!
Writing artifacts together. Every artifact is first written beside its target under a temporary name,
and only when that has worked for all of them are they moved to their targets.
-/

namespace Monomorph.Build

variable {m : Type → Type} [Monad m] [Files m]

/-- A file that has been written beside its target. -/
structure Staged where
  temporary : Path
  target : Path
  deriving DecidableEq, Repr

/-- The ending of a temporary name. -/
def temporaryEnding : String := ".tmp"

/-- The temporary file of a target. -/
def Staged.beside (target : Path) : Staged :=
  ⟨target.withName (target.name ++ temporaryEnding), target⟩

/-- Where staging stopped, and why. -/
abbrev StagingFault := Path × FileFault

/-- Writes each artifact beside its target. An artifact that exists already is skipped, unless it may
be overwritten. Answers what may have been written, also if staging stops. -/
def stage (overwrite : Bool) : List Artifact → m (List Staged × Option StagingFault)
  | [] => return ([], none)
  | a :: rest => do
    match ← Files.kind? a.path with
    | .error fault => return ([], some (a.path, fault))
    | .ok kind =>
      if kind.isSome && !overwrite then
        Files.note (.skipped a.path)
        stage overwrite rest
      else
        match ← Files.makeDirectories a.path.parent with
        | .error fault => return ([], some (a.path, fault))
        | .ok () =>
          let s := Staged.beside a.path
          match ← Files.write s.temporary (Text.Utf8.encode a.content) with
          | .error fault => return ([s], some (a.path, fault))
          | .ok () => do
            let (staged, stopped) ← stage overwrite rest
            return (s :: staged, stopped)

/-- Removes temporary files, whether or not they exist. -/
def discard : List Staged → m (Except FileFault Unit)
  | [] => return .ok ()
  | s :: rest => do
    match ← Files.remove s.temporary with
    | .ok () => discard rest
    | .error .missing => discard rest
    | .error fault => return .error fault

/-- Moves temporary files to their targets. -/
def publish : List Staged → m (Except FileFault (List Path))
  | [] => return .ok []
  | s :: rest => do
    match ← Files.rename s.temporary s.target with
    | .error fault => return .error fault
    | .ok () => return (← publish rest).map (s.target :: ·)

/-- Writes artifacts and answers the paths written. A fault while staging is an error of the build,
unless the path can name nothing; one while tidying up or moving ends the build. -/
def commit (c : Config) (artifacts : List Artifact) :
    m (Except FileFault (Except BuildError (List Path))) := do
  match ← stage c.overwrite.isTrue artifacts with
  | (_, some (_, .nameless)) => return .error .nameless
  | (staged, some (target, fault)) =>
    return (← discard staged).map fun () => .error (.unwritable target fault)
  | (staged, none) => return (← publish staged).map .ok

end Monomorph.Build
