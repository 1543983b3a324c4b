import Monomorph.Literal.Grammar

/-!
The values of expressions that are literals: constants, brackets around literals, signs in front of
numbers, the sum of a real and an imaginary number, and the call that makes an empty set. Items are
evaluated in order, and the first fault counts.
-/

namespace Monomorph.Literal

/-- A number in front of which a sign may stand. -/
def unsigned : Expr → Except Fault Literal
  | .value (.int n) => .ok (.int n)
  | .value (.double x) => .ok (.double x)
  | .value (.complex re im) => .ok (.complex re im)
  | _ => .error .notLiteral

/-- The number with the other sign. -/
def negate : Literal → Literal
  | .int n => .int (-n)
  | .double x => .double x.neg
  | .complex re im => .complex re.neg im.neg
  | v => v

/-- A number with at most one sign. -/
def signedNumber : Expr → Except Fault Literal
  | .signed negative e => (unsigned e).map fun v => if negative then negate v else v
  | e => unsigned e

/-- The sum of a real number and an imaginary one. Adding to the zero parts of the other operand
makes every negative zero positive, except that a difference keeps it in the real part. -/
def complexSum (negative : Bool) (left right : Literal) : Except Fault Literal :=
  match right with
  | .complex _ im =>
    let part (re : Double) : Literal :=
      if negative then .complex re (if im.isZero then im.addZero else im.neg)
      else .complex re.addZero im.addZero
    match left with
    | .int n =>
      match Double.ofInt n with
      | .infinite _ => .error .tooBig
      | re => .ok (part re)
    | .double re => .ok (part re)
    | _ => .error .notLiteral
  | _ => .error .notLiteral

mutual

/-- The value of an expression. -/
def eval : Expr → Except Fault Literal
  | .value v => .ok v
  | .tuple es => (evalItems es).map .tuple
  | .list es => (evalItems es).map .list
  | .set es => (evalMembers [] es).map .set
  | .dict kvs => (evalEntries [] kvs).map .dict
  | .call f [] => if f.isSetType then .ok (.set []) else .error .notLiteral
  | .signed negative e => signedNumber (.signed negative e)
  | .sum negative l r => do
    let left ← signedNumber l
    let right ← unsigned r
    complexSum negative left right
  | .call _ _ | .name _ | .place _ | .starred _ | .other _ => .error .notLiteral

/-- The values of the items of a tuple or list. -/
def evalItems : List Expr → Except Fault (List Literal)
  | [] => .ok []
  | e :: rest => do
    let v ← eval e
    return v :: (← evalItems rest)

/-- The members of a set, added to those so far. -/
def evalMembers (seen : List Literal) : List Expr → Except Fault (List Literal)
  | [] => .ok seen
  | e :: rest => do
    let v ← eval e
    if v.isKey then evalMembers (insert seen v) rest else .error .notKey

/-- The entries of a dictionary, put into those so far. -/
def evalEntries (seen : List (Literal × Literal)) :
    List (Expr × Expr) → Except Fault (List (Literal × Literal))
  | [] => .ok seen
  | (k, v) :: rest => do
    let key ← eval k
    let value ← eval v
    if key.isKey then evalEntries (put key value seen) rest else .error .notKey

end

/-- How many expressions may stand in one another. -/
def maxHeight : Nat := 2980

/-- The value of an expression's text. Blanks in front of it do not count. -/
def read (s : List Char) : Except Fault Literal := do
  if s.any (·.toNat = 0) then throw .notLiteral
  let text := (Text.unixNewlinesOf s).dropWhile fun c => c == ' ' || c == '\t'
  let e ← Expr.ofText text
  if maxHeight < e.height then throw .tooHigh
  eval e

end Monomorph.Literal
