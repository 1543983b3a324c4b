import Monomorph.Emission.Basic
import Monomorph.Token.StringLiteral

/-!
Registration: the function that exposes a dispatcher to the host interpreter, and the fragment that
defines a module from the registrations of several functions.
-/

namespace Monomorph.Emission

open Text

/-- The registration of a function. -/
structure Registration where
  function : String
  symbol : String
  dispatcher : String
  doc : String
  /-- The arguments with their default expressions, which are written verbatim. -/
  arguments : List (String × Option String)
  deriving DecidableEq, Repr

namespace Registration

/-- The registration of a function. -/
def of (f : ExpandedFunction) : Registration where
  function := f.name
  symbol := f.registerSymbol
  dispatcher := f.dispatcherSymbol
  doc := f.declaration.doc.getD ""
  arguments := f.declaration.arguments.map fun a => (a.name, a.default)

/-- An argument as it is registered. -/
def argumentText (a : String × Option String) : String :=
  "pybind11::arg(" ++ StringLiteral.quoted a.1 ++ ")" ++
    match a.2 with
    | some value => " = " ++ value
    | none => ""

/-- The source text of a registration. -/
def render (r : Registration) : String :=
  unlines <|
    ["void " ++ r.symbol ++ "(pybind11::module_& m) \x7b", "    m.def("] ++
    commaLines "        " ([StringLiteral.quoted r.function, "&" ++ r.dispatcher,
      StringLiteral.raw r.doc] ++ r.arguments.map argumentText) ++
    ["    );", "\x7d"]

end Registration

/-- The text of the fragment that defines a module from registration symbols. -/
def moduleText (module : String) (symbols : List String) : String :=
  unlines <|
    ["// Generated by npegen. Do not edit.", "#include <pybind11/pybind11.h>", ""] ++
    symbols.map (fun s => "void " ++ s ++ "(pybind11::module_& m);") ++
    ["", "PYBIND11_MODULE(" ++ module ++ ", m) \x7b"] ++
    symbols.map (fun s => "    " ++ s ++ "(m);") ++
    ["\x7d"]

end Monomorph.Emission
