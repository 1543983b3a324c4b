import Monomorph.Config
import Monomorph.DispatchTable.Manifest
import Monomorph.Emission.Native
import Monomorph.Emission.Stub

/-!
Artifacts: the files generated for a function, with their paths. A function has a native source,
and a stub and a manifest unless the configuration leaves them out; a module has one fragment.
-/

namespace Monomorph

/-- A generated file. -/
structure Artifact where
  path : Path
  content : String
  /-- The annotated source it comes from. -/
  source : Option Path := none
  deriving DecidableEq, Repr

namespace Artifact

/-- Where a file of a function goes. -/
def pathFor (c : Config) (f : ExpandedFunction) (ending : String) : Path :=
  c.output.append (Path.ofString (f.declaration.stem ++ ending))

/-- The native source of a function. -/
def native (c : Config) (f : ExpandedFunction) : Except EmissionError Artifact := do
  return ⟨pathFor c f ".npe.cpp", (← Emission.Native.of f).render, f.declaration.path⟩

/-- The typing stub of a function. -/
def stub (c : Config) (f : ExpandedFunction) : Except EmissionError Artifact := do
  return ⟨pathFor c f ".pyi", (← Emission.Stub.of f).render, f.declaration.path⟩

/-- The manifest of a function. -/
def manifest (c : Config) (f : ExpandedFunction) : Artifact :=
  ⟨pathFor c f ".npe.json", f.table.toJson, f.declaration.path⟩

/-- Every artifact of a function that the configuration asks for. -/
def all (c : Config) (f : ExpandedFunction) : Except EmissionError (List Artifact) := do
  let native ← Artifact.native c f
  let stubs ← if c.emitStubs.isTrue then (do return [← stub c f]) else pure []
  let manifests := if c.emitManifest.isTrue then [manifest c f] else []
  return native :: stubs ++ manifests

/-- The fragment that defines a module from some functions. -/
def moduleFragment (c : Config) (name : String) (fs : List ExpandedFunction) : Artifact where
  path := c.output.append (Path.ofString (name ++ "_module.cpp"))
  content := Emission.moduleText name (fs.map (·.registerSymbol))

end Artifact

end Monomorph
