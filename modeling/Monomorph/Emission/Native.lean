import Monomorph.Emission.Dispatcher
import Monomorph.Emission.Registration
import Monomorph.Emission.Specialization

/-!
The native source of a function: the author's host code, all specialisations, the dispatcher, the
registration, and the host code after the body.
-/

namespace Monomorph.Emission

open Text

/-- A native source file: everything that is compiled for one function. -/
structure Native where
  source : String
  function : String
  /-- How many combinations the function has. -/
  count : Nat
  preamble : String
  specializations : List Specialization
  dispatcher : Dispatcher
  registration : Registration
  epilogue : String
  deriving DecidableEq, Repr

namespace Native

/-- The native source of a function. -/
def of (f : ExpandedFunction) : Except EmissionError Native := do
  return {
    source := f.declaration.sourceName
    function := f.name
    count := f.table.combinations.length
    preamble := f.declaration.preamble
    specializations := ← Emission.specializations f
    dispatcher := ← Dispatcher.of f
    registration := Registration.of f
    epilogue := f.declaration.epilogue }

/-- The text of a native source. -/
def render (n : Native) : String :=
  unlines (["// Generated by npegen from " ++ n.source ++ ". Do not edit.",
      "// " ++ toString n.count ++ " specialization(s) of " ++ n.function ++ ".",
      "#include <pybind11/pybind11.h>", "#include <npe.h>", "", trimNewlines n.preamble, ""] ++
    n.specializations.flatMap (fun s => [s.render, ""]) ++
    [n.dispatcher.render, "", n.registration.render] ++
    if trim n.epilogue == "" then [] else ["", trimNewlines n.epilogue])

end Native

end Monomorph.Emission
