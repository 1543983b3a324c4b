import Monomorph.DispatchTable
import Monomorph.Literal.Default
import Monomorph.Program
import Monomorph.Record

/-!
Dispatchers: functions that are called at run time. A call binds its arguments to the parameters,
compares the tags of the dispatched ones with the table, and runs the implementation of the first
specialisation that agrees. Numeric arguments are passed as views; when the call ends, whatever way,
every view that was not transferred is released.
-/

namespace Monomorph

/-- A function that can be called. -/
structure Dispatcher where
  table : DispatchTable
  implementations : List (Label × Implementation) := []
  /-- The defaults that are usable at run time. -/
  defaults : List (Label × Value) := []

/-- Why a dispatcher could not be made or extended. -/
inductive DispatcherFault where
  /-- The identifier is none of the table's. -/
  | notSpecialization (function identifier : Label)
  /-- A default expression is a literal without a value. -/
  | default (fault : Literal.Fault)
  /-- A default is no expression at all. -/
  | noExpression
  /-- An argument with a default has a name under which nothing can be looked up. -/
  | notKey

/-- The wording for an identifier that is none of the table's. -/
def DispatcherFault.notSpecializationMessage (function identifier : Label) : String :=
  s!"{function.shown}: '{identifier.shown}' is not a specialization of this function"

namespace Dispatcher

/-- Registers the implementation of a specialisation, in place of an earlier one. -/
def register (d : Dispatcher) (identifier : Label) (implementation : Implementation) :
    Except DispatcherFault Dispatcher :=
  if d.table.identifiers.any (·.same identifier) then
    .ok { d with implementations := Label.put identifier implementation d.implementations }
  else .error (.notSpecialization d.table.function identifier)

/-- The defaults of a table that are usable at run time. -/
def literalDefaults :
    List (Label × Option Label) → Except DispatcherFault (List (Label × Value))
  | [] => .ok []
  | (_, none) :: rest => literalDefaults rest
  | (_, some (.other (.halves _))) :: rest => literalDefaults rest
  | (_, some (.other _)) :: _ => .error .noExpression
  | (name, some (.text expression)) :: rest =>
    match Literal.ofDefault expression with
    | .error fault => .error (.default fault)
    | .ok none => literalDefaults rest
    | .ok (some v) =>
      if name.isKey then (literalDefaults rest).map ((name, .literal v) :: ·) else .error .notKey

/-- A dispatcher over a table, with implementations and defaults that win over the table's own. -/
def make (t : DispatchTable) (implementations : List (Label × Implementation) := [])
    (defaults : List (String × Value) := []) : Except DispatcherFault Dispatcher := do
  let d ← implementations.foldlM (fun d i => d.register i.1 i.2) ({ table := t } : Dispatcher)
  let own ← literalDefaults (t.names.zip t.paddedDefaults)
  return { d with
    defaults := Label.recordOf (own ++ defaults.map fun v => (Label.text v.1, v.2)) }

/-- The text of a dispatcher. -/
def toString (d : Dispatcher) : String :=
  let size := d.table.combinations.length
  let registered := d.implementations.length
  s!"Dispatcher({d.table.function.shown}, {size} specialization(s), {registered} registered)"

/-! Binding -/

/-- The name of the parameter that stands for the dispatcher itself. No keyword can give it. -/
def ownName : String := "self"

/-- Puts keyword arguments into the places that are still free. -/
def bindKeywords (function : String) (names : List Label) (places : List (Option Value)) :
    List (String × Value) → Except BindingFault (List (Option Value))
  | [] => .ok places
  | (name, v) :: rest =>
    match names.idxOf? (.text name) with
    | none => .error (.unexpected function name)
    | some i =>
      match places[i]? with
      | some none => bindKeywords function names (places.set i (some v)) rest
      | _ => .error (.repeated function name)

/-- Fills the places that are still free with defaults. -/
def fillDefaults (function : String) (defaults : List (Label × Value)) :
    List (Label × Option Value) → Except BindingFault (List Value)
  | [] => .ok []
  | (_, some v) :: rest => (fillDefaults function defaults rest).map (v :: ·)
  | (name, none) :: rest =>
    if !name.isKey then .error .notKey
    else match Label.lookup? name defaults with
      | none => .error (.missing function name.shown)
      | some v => (fillDefaults function defaults rest).map (v :: ·)

/-- The value of every parameter: the positional argument, else the keyword argument, else the
default. -/
def bind (d : Dispatcher) (arguments : List Value) (keywords : List (String × Value)) :
    Except BindingFault (List Value) := do
  let function := d.table.function.shown
  let names := d.table.names
  if keywords.any (·.1 == ownName) then throw .ownName
  if names.length < arguments.length then
    throw (.tooMany function names.length arguments.length)
  let free := List.replicate (names.length - arguments.length) none
  let places ← bindKeywords function names (arguments.map some ++ free) keywords
  fillDefaults function d.defaults (names.zip places)

/-! Choice of a specialisation -/

/-- Puts the tags of the values at some positions into a list. -/
def tagsAt (values : List Value) (tags : List (Option String)) :
    List Position → Except PositionFault (List (Option String))
  | [] => .ok tags
  | p :: rest => do
    let n ← p.placeIn values.length
    tagsAt values (tags.set n (values[n]?.map (·.tag))) rest

/-- The tags of the dispatched values. The others are not looked at. -/
def tags (d : Dispatcher) (values : List Value) : Except PositionFault (List (Option String)) :=
  tagsAt values (values.map fun _ => none) d.table.positions

/-- The mismatch that is reported for a position, if any. Its wording needs the names of all
arguments as texts. -/
def mismatchAt (d : Dispatcher) (tags : List (Option String)) (p : Option Position) : Failure :=
  let found : Except PositionFault (Label × Label) :=
    match p with
    | none => .ok (.absent, "unknown")
    | some p => do return (← p.elementIn d.table.names, (← p.elementIn tags).elim .absent .text)
  match found, d.table.names.mapM Label.text? with
  | .error fault, _ => .position fault
  | .ok _, none => .unlisted
  | .ok (name, actual), some names =>
    .mismatch ⟨d.table.function, name, actual, d.table.accepted, names⟩

/-- The specialisation for bound values. -/
def resolve (d : Dispatcher) (values : List Value) : Except Failure Combination := do
  let tags ← (d.tags values).mapError .position
  match ← (d.table.lookup tags).mapError .position with
  | some c => return c
  | none =>
    let position ← (d.table.firstMismatch tags).mapError .position
    throw (d.mismatchAt tags position)

/-- The specialisation that a call with these arguments would run. -/
def select (d : Dispatcher) (arguments : List Value) (keywords : List (String × Value)) :
    Except Failure Combination :=
  match d.bind arguments keywords with
  | .error fault => .error (.binding fault)
  | .ok values => d.resolve values

/-! Calls -/

/-- The value that a call returns for the answer of its implementation: what is handed over is taken
out of its view. -/
def unwrap (m : Memory) : Answer → Except Failure Value × Memory
  | .value v => (.ok v, m)
  | .moved (.view _ number) =>
    match m.detach number with
    | .ok (content, m') => (.ok content, m')
    | .error fault => (.error (.view fault), m)
  | .moved v => (.ok v, m)

/-- The end of a call: its result, and the memory with every argument that is a view released, unless
it was transferred. -/
def finish (arguments : List Value) (outcome : Except Failure Answer) (m : Memory) :
    Except Failure Value × Memory :=
  let (result, m) := match outcome with
    | .ok answer => unwrap m answer
    | .error f => (.error f, m)
  (result, arguments.foldl Memory.expire m)

/-- A call of a function. Calls from within its implementation go to `caller`. -/
def callWith (caller : Caller) (d : Dispatcher) (arguments : List Value)
    (keywords : List (String × Value)) (m : Memory) : Except Failure Value × Memory :=
  match d.bind arguments keywords with
  | .error fault => (.error (.binding fault), m)
  | .ok values =>
    match d.resolve values with
    | .error f => (.error f, m)
    | .ok c =>
      if !c.identifier.isKey then (.error .notKey, m)
      else match Label.lookup? c.identifier d.implementations with
      | none => (.error (.unregistered d.table.function.shown c.identifier.shown), m)
      | some implementation =>
        match m.viewAll (values.zip c.types) with
        | .error fault => (.error (.view fault), m)
        | .ok (views, m) =>
          let (outcome, m) := (implementation views).run caller m
          finish views outcome m

/-- Calls among some functions, nested up to some depth. -/
def callAt (ds : List Dispatcher) : Nat → Caller
  | 0 => fun _ _ _ m => (.error .tooDeep, m)
  | depth + 1 => fun function arguments keywords m =>
    match ds[function]? with
    | none => (.error .unknownFunction, m)
    | some d => d.callWith (callAt ds depth) arguments keywords m

end Dispatcher

/-- The report of a failure that has one. -/
def Failure.report? : Failure → Option Report
  | .mismatch m => some (.mismatch m)
  | .unregistered function identifier =>
    some (.general s!"{function}: no implementation registered for {identifier}"
      Report.internalCode)
  | .view fault@(.released ..) => some (.released fault.message Report.releasedCode)
  | _ => none

end Monomorph
