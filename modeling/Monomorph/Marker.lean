import Monomorph.Declaration
import Monomorph.Token

/-!
The markers of an annotated source, and the faults a source can have. A fault is a cause; the
wording stands in `Fault.message` alone.
-/

namespace Monomorph

/-- The markers that make up a declaration. -/
inductive Marker where
  | function | argument | defaultArgument | doc | beginCode | endCode
  deriving DecidableEq, Repr

namespace Marker

/-- The identifier of a marker. -/
def spelling : Marker → String
  | function => "npe_function"
  | argument => "npe_arg"
  | defaultArgument => "npe_default_arg"
  | doc => "npe_doc"
  | beginCode => "npe_begin_code"
  | endCode => "npe_end_code"

/-- Every marker. -/
def all : List Marker := [function, argument, defaultArgument, doc, beginCode, endCode]

/-- The marker that a token is, if any. -/
def ofToken? (t : Token) : Option Marker :=
  if t.kind == .ident then all.find? (·.spelling == t.text) else none

end Marker

/-- The identifiers that introduce a constraint. -/
def Relation.heads : List (String × Relation) := [
  ("npe_matches", .same), ("matches", .same),
  ("npe_dense_like", .denseLike), ("dense_like", .denseLike),
  ("npe_sparse_like", .sparseLike), ("sparse_like", .sparseLike)]

/-- What can be wrong with a declaration. -/
inductive Fault where
  | functionMissing
  | beginMissing (function : String)
  | openerMissing (marker : String)
  | emptyItem (marker : String)
  | unbalanced (sign marker : String)
  | unclosed (marker : String)
  | nameShape (marker what got : String)
  | nameInvalid (marker name : String)
  | functionArity
  | functionRepeated
  | beforeFunction (marker : String)
  | afterEnd (marker : String)
  | insideBody (marker : String)
  | endWithoutBegin
  | beginArity
  | endArity
  | argumentAfterDefault
  | argumentArity
  | constraintNotAlone (argument head : String)
  | constraintShape (argument head got : String)
  | defaultArity
  | duplicateArgument (argument : String) (firstLine : Int)
  | docRepeated
  | docShape
  | noTypes (argument : String)
  | unknownTag (argument token : String)
  | mixedTypes (argument host : String)
  | severalHosts (argument : String) (hosts : List String)
  deriving DecidableEq, Repr

/-- The wording of a fault. -/
def Fault.message : Fault → String
  | functionMissing => "no npe_function declaration found"
  | beginMissing f => s!"npe_function({f}) has no npe_begin_code()"
  | openerMissing m => s!"expected '(' after {m}"
  | emptyItem m => s!"empty argument in {m}"
  | unbalanced s m => s!"unbalanced '{s}' in {m}"
  | unclosed m => s!"unbalanced parentheses in {m}"
  | nameShape m what got => s!"{m}: {what} must be a single identifier, got '{got}'"
  | nameInvalid m name => s!"{m}: '{name}' is not a valid identifier"
  | functionArity => "npe_function takes exactly one argument (the function name)"
  | functionRepeated => "only one npe_function may be declared per file"
  | beforeFunction m => s!"{m} before npe_function"
  | afterEnd m => s!"{m} after npe_end_code()"
  | insideBody m => s!"{m} inside the function body"
  | endWithoutBegin => "npe_end_code() without npe_begin_code()"
  | beginArity => "npe_begin_code() takes no arguments"
  | endArity => "npe_end_code() takes no arguments"
  | argumentAfterDefault => "npe_arg must precede every npe_default_arg"
  | argumentArity => "npe_arg needs a name and at least one type"
  | constraintNotAlone a head => s!"npe_arg({a}): {head}() must be the only type"
  | constraintShape a head got => s!"npe_arg({a}): expected {head}(<argument>), got '{got}'"
  | defaultArity => "npe_default_arg takes a name, a type and a default value"
  | duplicateArgument a line => s!"duplicate argument '{a}' (first declared at line {line})"
  | docRepeated => "npe_doc declared more than once"
  | docShape => "npe_doc takes a single string literal"
  | noTypes a => s!"argument '{a}' declares no types"
  | unknownTag a token => s!"argument '{a}': unknown type tag '{token}'"
  | mixedTypes a host => s!"argument '{a}' mixes numeric type tags with host type '{host}'"
  | severalHosts a hosts =>
    let all := Text.join ", " hosts
    s!"argument '{a}' declares more than one host type ({all})"

/-- A fault of a declaration, where it stands, and the marker it is about. -/
structure DeclarationError where
  fault : Fault
  location : Location
  construct : String
  deriving DecidableEq, Repr

end Monomorph
