import Monomorph.Literal.Evaluation

/-!
Default expressions at run time. A default is written in the host language; where it is also a
literal of the interpreter, or one of a few words with a plain meaning, the run-time dispatcher can
use it. Everything else has to be passed by the caller.
-/

namespace Monomorph.Literal

open Text

/-- Words of the host language with a plain meaning. -/
def plainWords : List (String × Literal) := [
  ("true", .bool true), ("false", .bool false), ("nullptr", .nothing), ("std::nullopt", .nothing)]

/-- A letter that may end a number of the host language. -/
def isSuffixLetter (c : Char) : Bool :=
  c == 'f' || c == 'F' || c == 'u' || c == 'U' || c == 'l' || c == 'L'

/-- The characters without the suffix letters that end them, if a digit stands before those. -/
def dropSuffix (s : List Char) : List Char :=
  let head := (s.reverse.dropWhile isSuffixLetter).reverse
  match head.getLast? with
  | some c => if isDecimal c then head else s
  | none => s

/-- Does the text start like a hexadecimal number, where `f` is a digit? -/
def startsHex : List Char → Bool
  | '0' :: c :: _ => c == 'x' || c == 'X'
  | _ => false

/-- The value of a default expression; nothing if only the host language can evaluate it. An
expression can be a literal in form and yet have no value; that is a fault. -/
def ofDefault (expression : String) : Except Fault (Option Literal) :=
  let s := trimBy isBlank expression.toList
  match plainWords.lookup (String.ofList s) with
  | some v => .ok (some v)
  | none =>
    match read (if startsHex s then s else dropSuffix s) with
    | .ok v => .ok (some v)
    | .error .notLiteral => .ok none
    | .error fault => .error fault

end Monomorph.Literal
