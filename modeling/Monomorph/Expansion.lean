import Monomorph.Declaration
import Monomorph.DispatchTable
import Monomorph.Forest

/-!
Expansion: from a resolved declaration to its dispatch table. Arguments that constraints link form
one class, and one choice of a type per class fixes the types of all arguments; so the combinations
are the product over classes, the first class varying slowest.
-/

namespace Monomorph

open Text

/-- Arguments whose types are fixed together, and the one whose type is chosen. -/
structure TypeClass where
  representative : Argument
  members : List String
  deriving Repr

namespace TypeClass

/-- How many types there are to choose from. -/
def size (c : TypeClass) : Nat := c.representative.typeList.length

/-- Does the choice show in the symbol of a specialisation? -/
def isNumeric (c : TypeClass) : Bool := !c.representative.isPassedThrough

end TypeClass

/-- Why a declaration cannot be expanded. -/
inductive ExpansionError where
  /-- More combinations than the limit allows. -/
  | tooMany (function : String) (total : Nat) (sizes : List (String × Nat)) (limit : Int)
  /-- Some argument has no types yet. -/
  | unresolved (function : String)
  /-- A constraint refers to a name that is no argument. -/
  | unknownName (name : String)
  /-- A constraint derives storage from a host type. -/
  | storage (e : NoStorage)
  deriving DecidableEq, Repr

/-- The wording of an expansion error. -/
def ExpansionError.message : ExpansionError → String
  | tooMany f total sizes limit =>
    let shown := join " x " (sizes.map fun s => s!"{s.1}[{s.2}]")
    s!"{f}: expansion yields {total} specializations ({shown}), more than max_combinations={limit}"
  | unresolved f => s!"{f}: arguments must be resolved before expansion"
  | unknownName n => n
  | storage e => e.message

namespace Expansion

/-- The limit on the number of combinations unless something else is asked for. -/
def standardLimit : Int := 256

/-- The forest after merging every derived argument with the one it refers to. -/
def link : Forest → List Argument → Except ExpansionError Forest
  | f, [] => .ok f
  | f, a :: rest =>
    match a.constraint? with
    | none => link f rest
    | some c =>
      match f.union? c.reference a.name with
      | none => .error (.unknownName c.reference)
      | some (_, g) => link g rest

/-- The classes of a resolved declaration, in the order of their representatives. -/
def classes (d : Declaration) : Except ExpansionError (List TypeClass) :=
  if !d.isResolved then .error (.unresolved d.name)
  else (link (Forest.singletons d.names) d.arguments).map fun f =>
    f.groups.filterMap fun g => (d.argument? g.1).map fun a => ⟨a, g.2⟩

/-- The number of combinations, computed without enumerating them. -/
def total (cs : List TypeClass) : Nat := (cs.map (·.size)).foldl (· * ·) 1

/-- Every way to choose one element of each list, the first list varying slowest. -/
def choices {α : Type} : List (List α) → List (List α)
  | [] => [[]]
  | xs :: rest => xs.flatMap fun x => (choices rest).map (x :: ·)

/-- Types by argument name, the latest first. -/
abbrev Assignment := List (String × ConcreteType)

/-- The assignment with the types of all derived arguments added. -/
def derive : Assignment → List Argument → Except ExpansionError Assignment
  | known, [] => .ok known
  | known, a :: rest =>
    match a.constraint? with
    | none => derive known rest
    | some c =>
      match known.lookup c.reference with
      | none => .error (.unknownName c.reference)
      | some t =>
        match c.relation.project t with
        | .error e => .error (.storage e)
        | .ok t' => derive ((a.name, t') :: known) rest

/-- The words that start every generated symbol. -/
def symbolStart : String := "npe_"

/-- The symbol of a specialisation. -/
def identifier (function : String) (fragments : List String) : String :=
  if fragments.isEmpty then symbolStart ++ function ++ "__generic"
  else symbolStart ++ function ++ "__" ++ join "__" fragments

/-- The types under the given names. -/
def typesOf (known : Assignment) : List String → Except ExpansionError (List ConcreteType)
  | [] => .ok []
  | n :: rest =>
    match known.lookup n with
    | none => .error (.unknownName n)
    | some t => (typesOf known rest).map (t :: ·)

/-- The combination for one choice of a type per class. -/
def combination (d : Declaration) (cs : List TypeClass) (index : Nat) (choice : List ConcreteType) :
    Except ExpansionError Combination := do
  let roots := cs.map (·.representative.name)
  let known ← derive (roots.zip choice) d.arguments
  let chosen ← typesOf known ((cs.filter (·.isNumeric)).map (·.representative.name))
  let types ← typesOf known d.names
  return {
    index, types
    names := d.names.map Label.text
    identifier := identifier d.name (chosen.map (·.fragment)) }

/-- The combinations for some choices, numbered from `index` on. -/
def combinations (d : Declaration) (cs : List TypeClass) (index : Nat) :
    List (List ConcreteType) → Except ExpansionError (List Combination)
  | [] => .ok []
  | choice :: rest => do
    let c ← combination d cs index choice
    return c :: (← combinations d cs (index + 1) rest)

/-- Checks the number of combinations against the limit. -/
def checkLimit (d : Declaration) (cs : List TypeClass) (limit : Option Int) :
    Except ExpansionError Unit :=
  match limit with
  | none => .ok ()
  | some n =>
    if n < (total cs : Int) then
      let sizes := (cs.filter fun c => 1 < c.size).map fun c => (c.representative.name, c.size)
      .error (.tooMany d.name (total cs) sizes n)
    else .ok ()

end Expansion

/-- The dispatch table of a resolved declaration. -/
def Declaration.expand (d : Declaration) (limit : Option Int := some Expansion.standardLimit) :
    Except ExpansionError DispatchTable := do
  let cs ← Expansion.classes d
  Expansion.checkLimit d cs limit
  let rows ← Expansion.combinations d cs 0
    (Expansion.choices (cs.map (·.representative.typeList)))
  return {
    function := d.name
    names := d.names.map Label.text
    combinations := rows
    positions := (d.arguments.filter fun a => !a.isPassedThrough).map fun a => .index a.position
    defaults := d.arguments.map fun a => a.default.map Label.text }

end Monomorph
