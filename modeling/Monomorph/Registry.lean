import Monomorph.ConcreteType

/-!
The registry of type tokens: which texts in a declaration name a type. The numeric tokens are always
there; a project may add tokens of its own or give a token another meaning.
-/

namespace Monomorph

open Text

/-- Type tokens with their types. -/
structure Registry where
  entries : List (String × ConcreteType)

namespace Registry

/-- The registry of the numeric tokens. -/
def standard : Registry := ⟨ConcreteType.spellings⟩

/-- Gives a token a type, in place of the type it had. -/
def register (r : Registry) (token : String) (type : ConcreteType) : Registry :=
  ⟨(token, type) :: r.entries.filter (·.1 != token)⟩

/-- The standard registry with further tokens. -/
def extended (extra : List (String × ConcreteType)) : Registry :=
  extra.foldl (fun r e => r.register e.1 e.2) standard

/-- The type of a token, blanks around it ignored. -/
def lookup (r : Registry) (token : String) : Option ConcreteType := r.entries.lookup (trim token)

/-- Does the token look like a numeric one: an identifier that starts with a storage word? -/
def isTagShaped (token : String) : Bool :=
  let t := trim token
  isIdentifier t && ConcreteType.storages.any fun s => startsWith t s.1

/-- All tokens in the order of their code points. -/
def tokens (r : Registry) : List String := (r.entries.map (·.1)).mergeSort fun a b => decide (a ≤ b)

end Registry

end Monomorph
