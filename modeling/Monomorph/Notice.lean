import Monomorph.Scan

/-!
Notices: what a build tells its user while it runs, each with a level and the part of the build it
comes from.
-/

namespace Monomorph

/-- How much a notice matters. -/
inductive Notice.Level where
  | info | warning | error
  deriving DecidableEq, Repr

/-- A notice. Its subject is the source, or the function if there is none. -/
inductive Notice where
  /-- A body runs to the end of its source. -/
  | unclosedBody (subject : String)
  /-- A function has been expanded. -/
  | expanded (subject : String) (count : Nat) (function : String)
  /-- A file is there already and stays as it is. -/
  | skipped (target : Path)
  /-- A source has failed. -/
  | failed (source : Path) (message : String)
  /-- A module has been built. -/
  | built (name : String) (functions failures : Nat)
  deriving DecidableEq, Repr

namespace Notice

/-- The level of a notice. -/
def level : Notice → Level
  | unclosedBody _ => .warning
  | failed .. => .error
  | _ => .info

/-- The name of a level. -/
def Level.name : Level → String
  | info => "INFO"
  | warning => "WARNING"
  | error => "ERROR"

/-- The part of the build that a notice comes from. -/
def origin : Notice → String
  | unclosedBody _ => "npegen.scanner"
  | _ => "npegen.pipeline"

/-- The wording of a notice. -/
def text : Notice → String
  | unclosedBody subject =>
    s!"{subject}: npe_begin_code() without npe_end_code(); body runs to end of file"
  | expanded subject count function => s!"{subject}: {count} specialization(s) of {function}"
  | skipped target => s!"Skipping (exists): {target}"
  | failed source message => s!"Error processing {source}: {message}"
  | built name functions failures =>
    s!"Module {name}: {functions} function(s), {failures} failure(s)"

/-- The notice as a line. -/
def line (n : Notice) : String := s!"{n.level.name} {n.origin}: {n.text}"

end Notice

/-- What a user is told about a scanned text. -/
def Scanned.notices (s : Scanned) : List Notice :=
  let subject := (s.declaration.path.map Path.toString).getD s.declaration.name
  if s.bodyUnclosed then [.unclosedBody subject] else []

end Monomorph
