import Monomorph.Declaration
import Monomorph.DispatchTable
import Monomorph.Spelling

/-!
What all generated sources share: the function they are generated for, its symbols, formal
parameters, and the assembly of text from lines.
-/

namespace Monomorph

/-- A resolved declaration with its dispatch table. -/
structure ExpandedFunction where
  declaration : Declaration
  table : DispatchTable
  deriving DecidableEq, Repr

namespace ExpandedFunction

/-- The name of the function. -/
def name (f : ExpandedFunction) : String := f.declaration.name

/-- The symbol of the run-time entry point. -/
def dispatcherSymbol (f : ExpandedFunction) : String := "npe_dispatch_" ++ f.name

/-- The symbol of the function that registers the entry point. -/
def registerSymbol (f : ExpandedFunction) : String := "npe_register_" ++ f.name

end ExpandedFunction

/-- Why a table cannot be written out. -/
inductive EmissionError where
  /-- Two combinations have the same symbol. -/
  | sharedSymbol (function : String)
  /-- A dispatched position has a host type, which no run-time tag stands for. -/
  | noRuntimeTag (host : String)
  /-- A dispatched position cannot be looked at. -/
  | position (fault : PositionFault)
  /-- The symbol of a combination is a list or an object. -/
  | notKey
  /-- The name of a dispatched argument is no text, so it cannot be quoted. -/
  | unquotable
  /-- The name of a dispatched argument is no text, so it cannot be listed. -/
  | unlisted
  deriving DecidableEq, Repr

/-- The wording of an emission error. -/
def EmissionError.message : EmissionError → String
  | sharedSymbol f => s!"{f}: specialization symbols are not unique"
  | noRuntimeTag host => s!"Opaque type {host} has no runtime tag"
  | position .outOfRange => "position out of range"
  | position .notPosition => "no position"
  | notKey => "a symbol is a list or an object"
  | unquotable | unlisted => "a name is no text"

namespace Emission

open Text

/-- A formal parameter. -/
structure Parameter where
  name : String
  type : String
  deriving DecidableEq, Repr

/-- A formal parameter as it is written. -/
def Parameter.text (p : Parameter) : String := p.type ++ " " ++ p.name

/-- Lines, each with its end. -/
def unlines (ls : List String) : String := String.join (ls.map (· ++ "\n"))

/-- The items with a comma after each but the last. -/
def commaSeparated : List String → List String
  | [] => []
  | [x] => [x]
  | x :: y :: r => (x ++ ",") :: commaSeparated (y :: r)

/-- The items with a blank margin and a comma after each but the last. -/
def commaLines (margin : String) (items : List String) : List String :=
  (commaSeparated items).map (margin ++ ·)

/-- Texts in braces, separated by commas. -/
def braced (items : List String) : String := "\x7b " ++ join ", " items ++ " \x7d"

/-- The element at a dispatched position. -/
def require {α : Type} (xs : List α) (p : Position) : Except EmissionError α :=
  (p.elementIn xs).mapError .position

/-- The names of the dispatched arguments. -/
def dispatched (t : DispatchTable) : Except EmissionError (List Label) :=
  t.positions.mapM (require t.names)

/-- Names as texts, or the given fault if some name is none. -/
def requireTexts (fault : EmissionError) (names : List Label) : Except EmissionError (List String) :=
  match names.mapM Label.text? with
  | some texts => .ok texts
  | none => .error fault

/-- The tags of a combination at the dispatched positions. -/
def dispatchedTags (t : DispatchTable) (c : Combination) : Except EmissionError (List String) :=
  t.positions.mapM fun p => (require c.types p).map (·.tag)

/-- The accepted rows of tags at the dispatched positions. -/
def acceptedRows (t : DispatchTable) : Except EmissionError (List (List String)) :=
  t.combinations.mapM (dispatchedTags t)

end Emission

end Monomorph
