import Monomorph.Number.Shortest

/-!
Literal values of the host interpreter: what a default expression can stand for at run time without
evaluating any code.
-/

namespace Monomorph

/-- A literal value. -/
inductive Literal where
  | nothing
  | ellipsis
  | bool (b : Bool)
  | int (n : Int)
  | double (x : Double)
  | complex (re im : Double)
  | text (s : String)
  /-- A text in which a surrogate stands alone, as its code points. -/
  | halves (points : List Nat)
  | bytes (bs : List UInt8)
  | list (items : List Literal)
  | tuple (items : List Literal)
  | set (items : List Literal)
  | dict (entries : List (Literal × Literal))
  /-- An object of any other class, of which only the class is known. -/
  | object (className : String)
  deriving Repr, Inhabited

namespace Literal

/-- The text of a complex number: the imaginary part alone if the real part is the positive zero,
otherwise both parts in parentheses, the second with its sign. -/
def complexText (re im : Double) : String :=
  let imaginary := im.toText false ++ "j"
  if re.isZero && !re.isNegative then imaginary
  else
    let sign := if im.isNegative then "" else "+"
    "(" ++ re.toText false ++ sign ++ imaginary ++ ")"

/-- A real number, exact if it is an integer. -/
inductive Real where
  | int (n : Int)
  | double (x : Double)

/-- Numeric equality of real numbers. -/
def Real.same : Real → Real → Bool
  | int a, int b => a == b
  | int a, double y => y.equalsInt a
  | double x, int b => x.equalsInt b
  | double x, double y => x.numEq y

/-- The real and imaginary parts of a number. The two truth values count as one and zero. -/
def parts? : Literal → Option (Real × Real)
  | bool b => some (.int (if b then 1 else 0), .int 0)
  | int n => some (.int n, .int 0)
  | double x => some (.double x, .int 0)
  | complex re im => some (.double re, .double im)
  | _ => none

mutual

/-- Are two values equal as members of a set or keys of a dictionary? Numbers are compared by value
whatever their kind. -/
def same : Literal → Literal → Bool
  | nothing, nothing => true
  | ellipsis, ellipsis => true
  | text s, text t => s == t
  | halves s, halves t => s == t
  | bytes a, bytes b => a == b
  | tuple xs, tuple ys => sameItems xs ys
  | a, b =>
    match a.parts?, b.parts? with
    | some (ar, ai), some (br, bi) => ar.same br && ai.same bi
    | _, _ => false

/-- Are two lists of values equal item by item? -/
def sameItems : List Literal → List Literal → Bool
  | [], [] => true
  | x :: xs, y :: ys => same x y && sameItems xs ys
  | _, _ => false

end

mutual

/-- Can the value be a member of a set or a key of a dictionary? -/
def isKey : Literal → Bool
  | list _ | set _ | dict _ => false
  | tuple items => areKeys items
  | _ => true

/-- Can all of these values be keys? -/
def areKeys : List Literal → Bool
  | [] => true
  | x :: xs => isKey x && areKeys xs

end

/-- Adds a member to a set, unless an equal one is there. -/
def insert (items : List Literal) (x : Literal) : List Literal :=
  if items.any (·.same x) then items else items ++ [x]

/-- Puts a value under a key of a dictionary: in place of the old value, or at the end. -/
def put (key value : Literal) : List (Literal × Literal) → List (Literal × Literal)
  | [] => [(key, value)]
  | (k, v) :: rest => if k.same key then (k, value) :: rest else (k, v) :: put key value rest

end Literal

end Monomorph
