import Monomorph.Text.Blank

/-!
The types a specialisation can be generated for: dense arrays and compressed sparse matrices of four
element types, and host types that are passed through unchanged. Every type has a tag, and every tag
is the tag of a type.
-/

namespace Monomorph

open Text

/-- The numeric element types. -/
inductive Element where
  | float32 | float64 | int32 | int64
  deriving DecidableEq, Repr

/-- Every element type, in canonical order. -/
def Element.all : List Element := [.float32, .float64, .int32, .int64]

/-- The full name of an element type. -/
def Element.name : Element → String
  | float32 => "float32" | float64 => "float64" | int32 => "int32" | int64 => "int64"

/-- The short name that ends a tag. -/
def Element.short : Element → String
  | float32 => "f32" | float64 => "f64" | int32 => "i32" | int64 => "i64"

/-- Every spelling of an element type in a type token. -/
def Element.spellings : Element → List String
  | float32 => ["float", "f32", "float32"]
  | float64 => ["double", "f64", "float64"]
  | int32 => ["int", "i32", "int32"]
  | int64 => ["long", "longlong", "i64", "int64"]

/-- The compressed sparse layouts: by row or by column. -/
inductive Layout where
  | csr | csc
  deriving DecidableEq, Repr

/-- Both layouts, in canonical order. -/
def Layout.all : List Layout := [.csr, .csc]

/-- The name of a layout. -/
def Layout.name : Layout → String
  | csr => "csr" | csc => "csc"

/-- A type that an argument can have. -/
inductive ConcreteType where
  | dense (element : Element)
  | sparse (element : Element) (layout : Layout)
  | host (text : String)
  deriving DecidableEq, Repr

namespace ConcreteType

/-- The host type with this text, every run of blanks in it made one space. -/
def ofHost (text : String) : ConcreteType := host (squeeze text)

/-- Is it a host type? -/
def isHost : ConcreteType → Bool
  | host _ => true
  | _ => false

/-- The tag that identifies the type. -/
def tag : ConcreteType → String
  | dense e => "dense_" ++ e.short
  | sparse e l => l.name ++ "_" ++ e.short
  | host text => text

/-- The part of a specialisation's symbol that the type contributes. -/
def fragment : ConcreteType → String
  | host text => String.ofList (text.toList.map fun c => if isAlphanumeric c then c else '_')
  | t => t.tag

/-- The dense type with the same elements; a host type has none. -/
def toDense? : ConcreteType → Option ConcreteType
  | dense e => some (dense e)
  | sparse e _ => some (dense e)
  | host _ => none

/-- The sparse type with the same elements, by row for a dense type; a host type has none. -/
def toSparse? : ConcreteType → Option ConcreteType
  | dense e => some (sparse e .csr)
  | sparse e l => some (sparse e l)
  | host _ => none

/-- Every numeric type, in canonical order. -/
def numeric : List ConcreteType :=
  Element.all.map dense ++ Layout.all.flatMap fun l => Element.all.map fun e => sparse e l

/-- The words that start a numeric type token, with the storage they stand for. -/
def storages : List (String × (Element → ConcreteType)) := [
  ("dense_", dense), ("sparse_", (sparse · .csr)), ("csr_", (sparse · .csr)),
  ("csc_", (sparse · .csc))]

/-- Every numeric type token with its type: a storage word and a spelling of the element type. -/
def spellings : List (String × ConcreteType) :=
  storages.flatMap fun s => Element.all.flatMap fun e =>
    e.spellings.map fun name => (s.1 ++ name, s.2 e)

/-- The type with the given tag; any text that names no numeric type is a host type. -/
def ofTag (tag : String) : ConcreteType := (spellings.lookup tag).getD (ofHost tag)

end ConcreteType

end Monomorph
