import Monomorph.Literal

/-!
Expressions of the host interpreter, as far as their literal values need them: of an expression that
is no literal only the parts are kept.
-/

namespace Monomorph.Literal

/-- An expression. -/
inductive Expr where
  | value (v : Literal)
  | tuple (items : List Expr)
  | list (items : List Expr)
  | set (items : List Expr)
  | dict (entries : List (Expr × Expr))
  /-- A sign in front of an operand. -/
  | signed (negative : Bool) (operand : Expr)
  /-- The sum or difference of two operands. -/
  | sum (negative : Bool) (left right : Expr)
  | name (s : String)
  | call (function : Expr) (arguments : List Expr)
  /-- A member, an element or a slice of something. -/
  | place (parts : List Expr)
  /-- An item whose members stand in its place. -/
  | starred (items : Expr)
  /-- Any other expression. -/
  | other (parts : List Expr)
  deriving Inhabited

namespace Expr

/-- Do the members of something stand in the place of the item? -/
def isStarred : Expr → Bool
  | starred _ => true
  | _ => false

mutual

/-- Can a loop put values there? -/
def isTarget : Expr → Bool
  | name _ | place _ => true
  | tuple items | list items => areTargets items
  | _ => false

/-- Can a loop put a value, or the rest of some values, at each of these? -/
def areTargets : List Expr → Bool
  | [] => true
  | starred e :: rest => isTarget e && areTargets rest
  | e :: rest => isTarget e && areTargets rest

end

mutual

/-- How many expressions stand in one another at most. -/
def height : Expr → Nat
  | value _ | name _ => 1
  | tuple es | list es | set es | place es | other es => heights es + 1
  | dict entries => entryHeights entries + 1
  | signed _ e | starred e => height e + 1
  | sum _ l r => max (height l) (height r) + 1
  | call e es => max (height e) (heights es) + 1

/-- The greatest height. -/
def heights : List Expr → Nat
  | [] => 0
  | e :: rest => max (height e) (heights rest)

/-- The greatest height of a key or value. -/
def entryHeights : List (Expr × Expr) → Nat
  | [] => 0
  | (k, v) :: rest => max (max (height k) (height v)) (entryHeights rest)

end

/-- Forms of the letters in the name of the set type that count as the letters themselves. -/
def letterForms : List (Char × List Nat) := [
  ('s', [0x17f, 0x2e2, 0x209b, 0xff53, 0x1d42c, 0x1d460, 0x1d494, 0x1d4c8, 0x1d4fc, 0x1d530,
    0x1d564, 0x1d598, 0x1d5cc, 0x1d600, 0x1d634, 0x1d668, 0x1d69c]),
  ('e', [0x1d49, 0x2091, 0x212f, 0x2147, 0xff45, 0x1d41e, 0x1d452, 0x1d486, 0x1d4ee, 0x1d522,
    0x1d556, 0x1d58a, 0x1d5be, 0x1d5f2, 0x1d626, 0x1d65a, 0x1d68e]),
  ('t', [0x1d57, 0x209c, 0xff54, 0x1d42d, 0x1d461, 0x1d495, 0x1d4c9, 0x1d4fd, 0x1d531, 0x1d565,
    0x1d599, 0x1d5cd, 0x1d601, 0x1d635, 0x1d669, 0x1d69d])]

/-- Is the expression the name of the set type, in any form of its letters? -/
def isSetType : Expr → Bool
  | name s =>
    let plain (c : Char) : Char :=
      ((letterForms.find? (·.2.contains c.toNat)).map (·.1)).getD c
    s.toList.map plain == ['s', 'e', 't']
  | _ => false

end Expr

/-- Why an expression has no value. -/
inductive Fault where
  /-- It is malformed or no literal. -/
  | notLiteral
  /-- Its rules nest too deep to be read. -/
  | tooDeep
  /-- Its parts nest too deep to be kept. -/
  | tooHigh
  /-- A list, set or dictionary stands where a member of a set or a key is needed. -/
  | notKey
  /-- An integer is too big for a double. -/
  | tooBig
  deriving DecidableEq, Repr

end Monomorph.Literal
