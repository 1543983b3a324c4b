import Monomorph.Command

/-!
The command line: the operations on files on a real file system, and the program that carries out its
arguments. Everything decided here is decided in `Command`; this module only asks the system and
prints.
-/

namespace Monomorph.Main

/-- The number of a system error, which some operations answer with its sign changed. -/
def errorNumber (code : UInt32) : UInt32 := if code < 0x80000000 then code else 0 - code

/-- The fault that an error of the system means. -/
def faultOf (e : IO.Error) : FileFault :=
  match e with
  | .noFileOrDirectory .. => .missing
  | .alreadyExists .. => .alreadyExists
  | .inappropriateType _ code _ =>
    if errorNumber code = 20 then .notDirectory
    else if errorNumber code = 21 then .isDirectory
    else .other (toString e)
  | .invalidArgument _ code _ =>
    if errorNumber code = 36 then .nameTooLong else .other (toString e)
  | _ => .other (toString e)

/-- An operation with its error as a fault. -/
def attempt {α : Type} (operation : IO α) : IO (Except FileFault α) := do
  return (← operation.toBaseIO).mapError faultOf

/-- A path as an entry of the current directory. -/
def entryOf (path : String) : IO.FS.DirEntry := ⟨".", path⟩

/-- The kind of what is there. What is no file counts as a directory, as nothing can be read from
either. -/
def kindOf (t : IO.FS.FileType) : FileKind :=
  match t with
  | .file => .file
  | _ => .directory

/-- The kind of what a path names. -/
def kind? (path : String) : IO (Except FileFault (Option FileKind)) := do
  match ← attempt do return (← (entryOf path).path.metadata).type with
  | .ok t => return .ok (some (kindOf t))
  | .error .missing => return .ok none
  | .error .notDirectory => return .ok none
  | .error fault => return .error fault

/-- The names that lead from a directory to each file below it. Links to directories are not followed,
and what cannot be listed is passed over. -/
partial def below (path : String) : IO (List (List String)) := do
  let listed ← attempt (entryOf path).path.readDir
  let mut found := []
  for entry in (listed.toOption.getD #[]).toList do
    let isDirectory ← attempt do return (← entry.path.symlinkMetadata).type == .dir
    if isDirectory.toOption.getD false then
      let deeper ← below entry.path.toString
      found := found ++ deeper.map (entry.fileName :: ·)
    else if (← kind? entry.path.toString).toOption == some (some .file) then
      found := found ++ [[entry.fileName]]
  return found

instance : Files IO where
  here := return Path.ofString (← IO.currentDir).toString
  kind? path := kind? path.toString
  below path := return .ok (← below path.toString)
  read path := attempt (IO.FS.readBinFile path.toString)
  write path content := attempt (IO.FS.writeBinFile path.toString content)
  makeDirectories path := attempt (IO.FS.createDirAll path.toString)
  remove path := attempt (IO.FS.removeFile path.toString)
  rename source target := attempt (IO.FS.rename source.toString target.toString)
  note n := IO.eprintln n.line

/-- How the program is called. -/
def usage : String := Command.unlines [
  "usage: npegen [-h] [--config CONFIG] [--verbose] [--no-overwrite] [--max-combinations N]",
  "              generate [--input INPUT]... [--output OUTPUT]",
  "            | module [--name NAME] [--output OUTPUT] [SOURCE]...",
  "            | inspect SOURCE"]

/-- Prints an answer, and answers the code to exit with. -/
def report : Command.Answer → IO UInt32
  | .usage => do
    IO.eprint usage
    return 2
  | .help => do
    IO.print usage
    return 0
  | .unloaded e => do
    IO.eprintln e.message
    return 1
  | .broken fault => do
    IO.eprintln fault.message
    return 1
  | .pathless => do
    IO.eprintln "a path is missing"
    return 1
  | .done o => do
    IO.print (Command.unlines o.out)
    IO.eprint (Command.unlines o.err)
    return o.exit.toUInt32

end Monomorph.Main

/-- Carries out the arguments of the program. -/
def main (arguments : List String) : IO UInt32 := do
  let environment ← IO.getEnv Monomorph.Config.variableName
  Monomorph.Main.report (← Monomorph.Command.run arguments environment)
