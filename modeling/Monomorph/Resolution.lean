import Monomorph.Marker
import Monomorph.Registry

/-!
Resolution: every argument's declared tokens or constraint become an ordered list of types without
repetition. Arguments are resolved in declaration order, and a constraint refers to an argument that
is already resolved. An argument has numeric types only, or exactly one host type.
-/

namespace Monomorph

/-- What can be wrong with the argument that a constraint refers to. -/
inductive ReferenceFault where
  | itself
  | declaredLater
  | unknown
  | notNumeric (host : String)
  deriving DecidableEq, Repr

/-- A constraint that cannot be resolved. -/
structure ReferenceError where
  fault : ReferenceFault
  argument : String
  constraint : Constraint
  location : Location
  deriving DecidableEq, Repr

/-- The wording of a reference error. -/
def ReferenceError.message (e : ReferenceError) : String :=
  let ref := e.constraint.reference
  match e.fault with
  | .itself => s!"argument '{e.argument}' cannot reference itself in {e.constraint.toString}"
  | .declaredLater => s!"argument '{e.argument}' references '{ref}' before it is declared"
  | .unknown => s!"argument '{e.argument}' references unknown argument '{ref}'"
  | .notNumeric host =>
    s!"argument '{e.argument}': {e.constraint.toString} needs a numeric referent, '{ref}' is {host}"

/-- Why a declaration cannot be resolved. -/
inductive ResolutionError where
  | declaration (e : DeclarationError)
  | reference (e : ReferenceError)
  | storage (e : NoStorage)
  deriving DecidableEq, Repr

namespace Resolution

/-- The list without later repetitions, in the order of first occurrences. -/
def distinct (ts : List ConcreteType) : List ConcreteType :=
  ts.foldl (fun seen t => if seen.contains t then seen else seen ++ [t]) []

/-- The known types and the other tokens of a type list; a token that looks numeric but is not known
is answered instead. -/
def classify (registry : Registry) : List String → Except String (List ConcreteType × List String)
  | [] => .ok ([], [])
  | token :: rest =>
    match registry.lookup token with
    | some t => (classify registry rest).map fun r => (t :: r.1, r.2)
    | none =>
      if Registry.isTagShaped token then .error token
      else (classify registry rest).map fun r => (r.1, token :: r.2)

/-- The types of a list of tokens. -/
def ofTokens (registry : Registry) (argument : String) (tokens : List String) :
    Except Fault (List ConcreteType) :=
  if tokens.isEmpty then .error (.noTypes argument)
  else match classify registry tokens with
  | .error token => .error (.unknownTag argument token)
  | .ok (known, []) => .ok (distinct known)
  | .ok ([], [host]) => .ok [.ofHost host]
  | .ok ([], hosts) => .error (.severalHosts argument hosts)
  | .ok (_ :: _, host :: _) => .error (.mixedTypes argument host)

/-- The types that follow from those of a referent, without repetition. -/
def derive (relation : Relation) (types : List ConcreteType) :
    Except NoStorage (List ConcreteType) :=
  match relation with
  | .same => .ok types
  | _ => (types.mapM relation.project).map distinct

/-- The types of a derived argument, given the resolved arguments before it and the names of all. -/
def ofConstraint (resolved : List Argument) (declared : List String) (a : Argument)
    (c : Constraint) : Except ResolutionError (List ConcreteType) :=
  let fail (fault : ReferenceFault) : Except ResolutionError (List ConcreteType) :=
    .error (.reference ⟨fault, a.name, c, a.location⟩)
  if c.reference == a.name then fail .itself
  else match resolved.find? (·.name == c.reference) with
  | none => fail (if declared.contains c.reference then .declaredLater else .unknown)
  | some referent =>
    if c.relation != .same && referent.isPassedThrough then
      fail (.notNumeric ((referent.typeList.head?.map (·.tag)).getD ""))
    else match derive c.relation referent.typeList with
    | .ok ts => .ok ts
    | .error e => .error (.storage e)

/-- The types of an argument. -/
def typesOf (registry : Registry) (resolved : List Argument) (declared : List String)
    (a : Argument) : Except ResolutionError (List ConcreteType) :=
  match a.source with
  | .derived c => ofConstraint resolved declared a c
  | .listed tokens =>
    match ofTokens registry a.name tokens with
    | .ok ts => .ok ts
    | .error fault => .error (.declaration ⟨fault, a.location, Marker.argument.spelling⟩)

/-- Resolves arguments one after the other; `resolved` holds those before them. -/
def arguments (registry : Registry) (declared : List String) (resolved : List Argument) :
    List Argument → Except ResolutionError (List Argument)
  | [] => .ok resolved
  | a :: rest =>
    match typesOf registry resolved declared a with
    | .error e => .error e
    | .ok ts => arguments registry declared (resolved ++ [{ a with types := some ts }]) rest

end Resolution

/-- The declaration with the types of every argument. -/
def Declaration.resolve (d : Declaration) (registry : Registry := Registry.standard) :
    Except ResolutionError Declaration :=
  (Resolution.arguments registry d.names [] d.arguments).map fun args => { d with arguments := args }

end Monomorph
