import Monomorph.Emission.Basic
import Monomorph.Token.StringLiteral

/-!
The native dispatcher: the run-time entry point of a function. It reads the tag of every dispatched
argument once, tests the combinations in order and calls the specialisation of the first that fits.
Host arguments are passed through. If no combination fits, it raises an error that lists them all.
-/

namespace Monomorph.Emission

open Text

/-- The variable that holds the tag of an argument. -/
def tagVariable (name : String) : String := "npe_tag_" ++ name

/-- The test whether an argument has a tag. -/
structure TagTest where
  argument : String
  /-- The run-time tag as the host language spells it. -/
  tag : String
  deriving DecidableEq, Repr

/-- A tag test as it is written. -/
def TagTest.text (t : TagTest) : String := tagVariable t.argument ++ " == " ++ t.tag

/-- What a dispatcher hands to a specialisation: the argument itself, or a view built from it. -/
inductive CallArgument where
  | passed (name : String)
  | built (type name : String)
  deriving DecidableEq, Repr

/-- A call argument as it is written. -/
def CallArgument.text : CallArgument → String
  | passed name => name
  | built type name => type ++ "(" ++ name ++ ")"

/-- One branch of a dispatcher. -/
structure Entry where
  identifier : String
  tests : List TagTest
  arguments : List CallArgument
  deriving DecidableEq, Repr

/-- The condition of a branch: all its tests, or the constant truth if there are none. -/
def Entry.condition (e : Entry) : String :=
  if e.tests.isEmpty then "true" else join " && " (e.tests.map (·.text))

/-- The test of a combination at a dispatched position. -/
def tagTest (c : Combination) (p : Position) : Except EmissionError TagTest := do
  let name ← require c.names p
  let type ← require c.types p
  match type.runtimeTag? with
  | some tag => .ok ⟨name.shown, tag⟩
  | none => .error (.noRuntimeTag type.tag)

/-- What a dispatcher hands to the specialisation for a combination. -/
def callArguments (c : Combination) : List CallArgument :=
  (c.names.zip c.types).map fun a =>
    if a.2.isHost then .passed a.1.shown else .built a.2.parameter a.1.shown

/-- The branch for a combination. -/
def entry (t : DispatchTable) (c : Combination) : Except EmissionError Entry := do
  return ⟨c.identifier.shown, ← t.positions.mapM (tagTest c), callArguments c⟩

/-- All branches in dispatch order. -/
def entries (t : DispatchTable) : Except EmissionError (List Entry) :=
  t.combinations.mapM (entry t)

/-- A native dispatcher. -/
structure Dispatcher where
  function : String
  symbol : String
  parameters : List Parameter
  dispatched : List String
  entries : List Entry
  accepted : List (List String)
  deriving DecidableEq, Repr

namespace Dispatcher

/-- The formal parameters: host arguments by their type, all others as plain objects. -/
def parametersOf (d : Declaration) : List Parameter :=
  d.arguments.map fun a =>
    if a.isPassedThrough then ⟨a.name, (a.typeList.head?.map (·.parameter)).getD ""⟩
    else ⟨a.name, "pybind11::object"⟩

/-- The dispatcher of a function. -/
def of (f : ExpandedFunction) : Except EmissionError Dispatcher := do
  let dispatched ← Emission.dispatched f.table
  let entries ← Emission.entries f.table
  let accepted ← acceptedRows f.table
  return {
    entries, accepted
    function := f.name
    symbol := f.dispatcherSymbol
    dispatched := ← requireTexts .unquotable dispatched
    parameters := parametersOf f.declaration }

/-- The lines of a branch. -/
def entryLines (e : Entry) : List String := [
  "    if (" ++ e.condition ++ ") \x7b",
  "        return " ++ e.identifier ++ "(" ++ join ", " (e.arguments.map (·.text)) ++ ");",
  "    \x7d"]

/-- The source text of a dispatcher. -/
def render (d : Dispatcher) : String :=
  unlines <|
    ["pybind11::object " ++ d.symbol ++ "("] ++
    commaLines "    " (d.parameters.map (·.text)) ++
    [") \x7b"] ++
    d.dispatched.map (fun name =>
      "    const npe::type_tag " ++ tagVariable name ++ " = npe::type_tag_of(" ++ name ++ ");") ++
    [""] ++
    d.entries.flatMap entryLines ++
    ["", "    throw npe::type_mismatch_error(",
      "        " ++ StringLiteral.quoted d.function ++ ",",
      "        " ++ braced (d.dispatched.map fun name =>
        braced [StringLiteral.quoted name, tagVariable name]) ++ ",",
      "        \x7b"] ++
    commaLines "            " (d.accepted.map fun row => braced (row.map StringLiteral.quoted)) ++
    ["        \x7d);", "\x7d"]

end Dispatcher

end Monomorph.Emission
