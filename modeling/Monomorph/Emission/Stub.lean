import Monomorph.Emission.Basic

/-!
Typing stubs: the declared signature with the types of every argument, and a docstring that lists
the accepted combinations.
-/

namespace Monomorph.Emission

open Text

/-- A typing stub. -/
structure Stub where
  source : String
  name : String
  parameters : List String
  docLines : List String
  deriving DecidableEq, Repr

namespace Stub

/-- The texts without repetitions, in the order of first occurrences. -/
def distinct (xs : List String) : List String :=
  xs.foldl (fun seen x => if seen.contains x then seen else seen ++ [x]) []

/-- The declared type of an argument: one type, or the union of several. -/
def typeText (a : Argument) : String :=
  match distinct (a.typeList.map (·.stub)) with
  | [one] => one
  | several => "Union[" ++ join ", " several ++ "]"

/-- A parameter of the signature; three dots stand for a default. -/
def parameterText (a : Argument) : String :=
  a.name ++ ": " ++ typeText a ++ if a.default.isSome then " = ..." else ""

/-- The lines of the author's documentation, with an empty line after them. -/
def docLinesOf (doc : Option String) : List String :=
  match doc with
  | none => []
  | some text => if text == "" then [] else lines (trim text) ++ [""]

/-- The lines that list the accepted combinations. -/
def combinationLines (t : DispatchTable) : Except EmissionError (List String) := do
  let names ← dispatched t
  if names.isEmpty then return []
  let names ← requireTexts .unlisted names
  let rows ← acceptedRows t
  return ("Accepted combinations (" ++ join ", " names ++ "):") ::
    rows.map fun row => "    (" ++ join ", " row ++ ")"

/-- The stub of a function. -/
def of (f : ExpandedFunction) : Except EmissionError Stub := do
  return {
    source := f.declaration.sourceName
    name := f.name
    parameters := f.declaration.arguments.map parameterText
    docLines := docLinesOf f.declaration.doc ++ (← combinationLines f.table) }

/-- Does some parameter have a union type? -/
def usesUnion (s : Stub) : Bool := s.parameters.any (contains · "Union[")

/-- A line of the docstring. -/
def docLine (line : String) : String := if line == "" then "" else "    " ++ line

/-- The docstring with its quotes, if there is anything to say. -/
def docBlock (s : Stub) : List String :=
  if s.docLines.isEmpty then []
  else ["    \"\"\""] ++ s.docLines.map docLine ++ ["    \"\"\""]

/-- The source text of a stub. -/
def render (s : Stub) : String :=
  unlines <|
    ["# Generated by npegen from " ++ s.source ++ ". Do not edit.",
      if s.usesUnion then "from typing import Any, Union" else "from typing import Any",
      "", "import numpy", "import scipy.sparse", "", "", "def " ++ s.name ++ "("] ++
    s.parameters.map (fun p => "    " ++ p ++ ",") ++
    [") -> Any:"] ++ docBlock s ++ ["    ..."]

end Stub

end Monomorph.Emission
