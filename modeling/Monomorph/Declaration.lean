import Monomorph.ConcreteType
import Monomorph.Path

/-!
Declarations: what an annotated source says about its function. A scanned argument either lists its
type tokens or derives its type from an earlier argument; resolution fills in the types.
-/

namespace Monomorph

open Text

/-- A place in a source file, for messages. -/
structure Location where
  file : Option Path
  line : Int
  column : Int
  deriving DecidableEq, Repr

/-- The text of a location; a text without a file has a stand-in name. -/
def Location.toString (l : Location) : String :=
  let file := match l.file with
    | some p => p.toString
    | none => "<source>"
  s!"{file}:{l.line}:{l.column}"

instance : ToString Location := ⟨Location.toString⟩

/-- How a derived type follows from the type it refers to: the same type, the same elements in dense
storage, or the same elements in sparse storage. -/
inductive Relation where
  | same | denseLike | sparseLike
  deriving DecidableEq, Repr

/-- The word for a relation. -/
def Relation.word : Relation → String
  | same => "matches" | denseLike => "dense_like" | sparseLike => "sparse_like"

/-- The relation for a word. -/
def Relation.ofWord? (s : String) : Option Relation :=
  [same, denseLike, sparseLike].find? (·.word == s)

/-- A host type where storage of its own elements is asked for. -/
structure NoStorage where
  host : String
  /-- The storage asked for. -/
  form : String
  deriving DecidableEq, Repr

/-- The wording of the error. -/
def NoStorage.message (e : NoStorage) : String := s!"Opaque type {e.host} has no {e.form} form"

/-- The type of a derived argument, given the type it refers to. -/
def Relation.project : Relation → ConcreteType → Except NoStorage ConcreteType
  | same, t => .ok t
  | denseLike, t =>
    match t.toDense? with
    | some t' => .ok t'
    | none => .error ⟨t.tag, "dense"⟩
  | sparseLike, t =>
    match t.toSparse? with
    | some t' => .ok t'
    | none => .error ⟨t.tag, "sparse"⟩

/-- A type that follows from the type of an argument declared earlier. -/
structure Constraint where
  relation : Relation
  reference : String
  deriving DecidableEq, Repr

/-- The text of a constraint. -/
def Constraint.toString (c : Constraint) : String := c.relation.word ++ "(" ++ c.reference ++ ")"

/-- How an argument declares its types: by a list of tokens, or by a constraint. -/
inductive TypeSource where
  | listed (tokens : List String)
  | derived (constraint : Constraint)
  deriving DecidableEq, Repr

/-- The declared types as written. -/
def TypeSource.text : TypeSource → String
  | listed tokens => join ", " tokens
  | derived c => c.toString

/-- One declared argument. Its types are known once it is resolved. -/
structure Argument where
  name : String
  position : Nat
  source : TypeSource
  default : Option String
  location : Location
  types : Option (List ConcreteType) := none
  deriving DecidableEq, Repr

namespace Argument

/-- The constraint of a derived argument. -/
def constraint? (a : Argument) : Option Constraint :=
  match a.source with
  | .derived c => some c
  | .listed _ => none

/-- The type tokens of an argument that lists them. -/
def tokens (a : Argument) : List String :=
  match a.source with
  | .listed ts => ts
  | .derived _ => []

/-- The resolved types, none before resolution. -/
def typeList (a : Argument) : List ConcreteType := a.types.getD []

/-- Is the argument resolved, to host types only? Such an argument is passed through and takes no
part in dispatch. -/
def isPassedThrough (a : Argument) : Bool := !a.typeList.isEmpty && a.typeList.all (·.isHost)

end Argument

/-- One annotated source: its declaration and the host code around it. -/
structure Declaration where
  name : String
  arguments : List Argument
  body : String
  doc : Option String
  preamble : String
  epilogue : String
  path : Option Path
  location : Location
  moveLines : List Int
  deriving DecidableEq, Repr

namespace Declaration

/-- The stem of the names of everything generated from the source. -/
def stem (d : Declaration) : String :=
  match d.path with
  | some p => p.stem
  | none => d.name

/-- The name of the source in messages and headings. -/
def sourceName (d : Declaration) : String :=
  match d.path with
  | some p => p.name
  | none => d.name

/-- The names of the arguments in order. -/
def names (d : Declaration) : List String := d.arguments.map (·.name)

/-- Is every argument resolved? -/
def isResolved (d : Declaration) : Bool := d.arguments.all (·.types.isSome)

/-- The argument with a name. -/
def argument? (d : Declaration) (name : String) : Option Argument :=
  d.arguments.find? (·.name == name)

/-- The declared signature. -/
def signature (d : Declaration) : String :=
  d.name ++ "(" ++ join ", " (d.arguments.map fun a => a.name ++ ": " ++ a.source.text) ++ ")"

end Declaration

end Monomorph
