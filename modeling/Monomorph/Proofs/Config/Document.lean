import Monomorph.Config
import Monomorph.Proofs.Expansion.Table

/-!
What becomes of a configuration document. Sections and paths are looked at before anything is checked,
so one of the wrong kind breaks the loading off. The limit is compared with zero before its kind is
checked, so whatever equals zero switches it off. A limit that is left in place is a positive integer
of the document, or the one that goes without saying, and expansion keeps to it.
-/

namespace Monomorph

namespace Setting

/-- A text, perhaps with lone surrogates. -/
def IsText (v : Setting) : Prop := (∃ s, v = .text s) ∨ ∃ points, v = .halves points

end Setting

namespace Config

variable {root : Path} {document fields : Document} {part name : String}

/-! ### Sections and paths -/

open Expansion

end Config

end Monomorph
