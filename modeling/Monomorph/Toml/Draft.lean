import Monomorph.Config.Setting
import Monomorph.Record

/-!
A table while its document is being read. Each part remembers how it came to be, because that decides
what may still be added: a value is closed, a table that only dotted keys opened is closed once the
next header comes, a table with a header of its own has that header once, and one that merely lies on
the way to another may still get everything.
-/

namespace Monomorph.Toml

/-- How a table was opened. -/
inductive Opening where
  /-- On the way to another table. -/
  | passed
  /-- By a dotted key below the header with this number. -/
  | dotted (number : Nat)
  /-- By a header of its own. -/
  | headed
  deriving DecidableEq, Repr

/-- A part of a document under construction. -/
inductive Draft where
  | value (v : Setting)
  | table (opening : Opening) (fields : List (String × Draft))
  /-- A list of tables, each with a header: the finished ones and the last. -/
  | tables (finished : List (List (String × Draft))) (last : List (String × Draft))
  deriving Inhabited

namespace Draft

/-- The fields of a table under construction. -/
abbrev Fields := List (String × Draft)

/-- May a dotted key below the header with this number go through a table that was opened so? -/
def admitsDotted (number : Nat) : Opening → Bool
  | .passed => true
  | .dotted s => s == number
  | .headed => false

/-- Puts a value under a dotted key, given as its first part and the others. Nothing, if the key is
taken or leads through something closed. -/
def assign? (number : Nat) (v : Setting) (fields : Fields) (key : String) :
    List String → Option Fields
  | [] => if (fields.lookup key).isSome then none else some (Record.put key (value v) fields)
  | next :: rest =>
    match fields.lookup key with
    | none => (assign? number v [] next rest).map fun inner =>
      Record.put key (table (.dotted number) inner) fields
    | some (table opening inner) =>
      if admitsDotted number opening then
        (assign? number v inner next rest).map fun inner =>
          Record.put key (table (.dotted number) inner) fields
      else none
    | some _ => none

/-- Changes the table at the end of a path; a list of tables stands for its last. Tables that are
missing on the way are made. -/
def within? (change : Fields → Option Fields) (fields : Fields) : List String → Option Fields
  | [] => change fields
  | key :: rest =>
    match fields.lookup key with
    | none => (within? change [] rest).map fun inner =>
      Record.put key (table .passed inner) fields
    | some (table opening inner) => (within? change inner rest).map fun inner =>
      Record.put key (table opening inner) fields
    | some (tables finished last) => (within? change last rest).map fun last =>
      Record.put key (tables finished last) fields
    | some (value _) => none

/-- Gives a table its header. -/
def open? (key : String) (fields : Fields) : Option Fields :=
  match fields.lookup key with
  | none => some (Record.put key (table .headed []) fields)
  | some (table .passed inner) => some (Record.put key (table .headed inner) fields)
  | some _ => none

/-- Adds a table to a list of tables. -/
def append? (key : String) (fields : Fields) : Option Fields :=
  match fields.lookup key with
  | none => some (Record.put key (tables [] []) fields)
  | some (tables finished last) => some (Record.put key (tables (finished ++ [last]) []) fields)
  | some _ => none

mutual

/-- The finished part. -/
def finish : Draft → Setting
  | value v => v
  | table _ fields => .table (finishFields fields)
  | tables finished last => .list (finishTables finished ++ [.table (finishFields last)])

/-- The finished fields of a table. -/
def finishFields : List (String × Draft) → List (FieldName × Setting)
  | [] => []
  | (key, d) :: rest => (.text key, finish d) :: finishFields rest

/-- The finished tables of a list. -/
def finishTables : List (List (String × Draft)) → List Setting
  | [] => []
  | fields :: rest => .table (finishFields fields) :: finishTables rest

end

end Draft

end Monomorph.Toml
