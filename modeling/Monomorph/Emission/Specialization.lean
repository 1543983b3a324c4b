import Monomorph.Emission.Basic
import Monomorph.Record
import Monomorph.Token.Lexer

/-!
Specialisations: one function per combination, with the author's body. The body is copied verbatim
but for the aliases of the argument types, which are replaced by the spellings of the combination.
Replacement goes token by token, so comments, literals and longer identifiers stay as they are.
-/

namespace Monomorph.Emission

open Text

/-- The aliases of every argument with the types they stand for. -/
def aliases (c : Combination) : List (String × String) :=
  Record.ofPairs <| (c.names.zip c.types).flatMap fun a => [
    ("npe_Matrix_" ++ a.1.shown, a.2.matrix),
    ("npe_Scalar_" ++ a.1.shown, a.2.scalar),
    ("npe_Map_" ++ a.1.shown, a.2.parameter)]

/-- What a piece of a body becomes. -/
def substitutePiece (as : List (String × String)) : Lexer.Piece × List Char → List Char
  | (.token .ident, lexeme) =>
    match as.lookup (String.ofList lexeme) with
    | some type => type.toList
    | none => lexeme
  | (_, lexeme) => lexeme

/-- The body with its alias identifiers replaced. -/
def substitute (as : List (String × String)) (body : String) : String :=
  String.ofList ((Lexer.pieces body.toList).flatMap (substitutePiece as))

/-- A specialisation: the function for one combination. -/
structure Specialization where
  function : String
  tags : List String
  identifier : String
  parameters : List Parameter
  body : String
  deriving DecidableEq, Repr

namespace Specialization

/-- The formal parameters for a combination. -/
def parametersOf (c : Combination) : List Parameter :=
  (c.names.zip c.types).map fun a => ⟨a.1.shown, a.2.parameter⟩

/-- The specialisation of a function for one of its combinations. -/
def of (f : ExpandedFunction) (c : Combination) : Specialization where
  function := f.name
  tags := c.tags
  identifier := c.identifier.shown
  parameters := parametersOf c
  body := substitute (aliases c) f.declaration.body

/-- The source text of a specialisation. -/
def render (s : Specialization) : String :=
  unlines <|
    ["// " ++ s.function ++ "(" ++ join ", " s.tags ++ ")",
      "static pybind11::object " ++ s.identifier ++ "("] ++
    commaLines "    " (s.parameters.map (·.text)) ++
    [") \x7b", trimNewlines s.body, "\x7d"]

end Specialization

/-- All specialisations of a function in dispatch order. Their symbols have to differ. -/
def specializations (f : ExpandedFunction) : Except EmissionError (List Specialization) :=
  let symbols := f.table.identifiers
  if !symbols.all (·.isKey) then .error .notKey
  else if Label.areDistinct symbols then .ok (f.table.combinations.map (Specialization.of f))
  else .error (.sharedSymbol f.name)

end Monomorph.Emission
