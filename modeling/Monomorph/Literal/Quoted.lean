import Monomorph.Literal
import Monomorph.Number.Digits
import Monomorph.Text.CharacterName
import Monomorph.Text.Quoted

/-!
What stands between the quotes of a literal, and what it stands for.
-/

namespace Monomorph.Literal

open Text

/-- The quote that opens a text: one character, or three for a text of several lines. -/
structure Quote where
  mark : Char
  triple : Bool

/-- Is the character one of the two quotes? -/
def isQuote (c : Char) : Bool := c == '"' || c == '\''

/-- The quote that starts with this character, and what follows it. -/
def openQuote (c : Char) : List Char → Quote × List Char
  | a :: b :: r => if a == c && b == c then (⟨c, true⟩, r) else (⟨c, false⟩, a :: b :: r)
  | r => (⟨c, false⟩, r)

/-- The characters up to the closing quote and the rest after it. A backslash takes the next
character with it. -/
def upToQuote (q : Quote) : List Char → Option (List Char × List Char)
  | [] => none
  | '\\' :: c :: r => (upToQuote q r).map fun p => ('\\' :: c :: p.1, p.2)
  | c :: r =>
    if c == q.mark then
      if !q.triple then some ([], r)
      else match r with
      | a :: b :: r' =>
        if a == q.mark && b == q.mark then some ([], r')
        else (upToQuote q r).map fun p => (c :: p.1, p.2)
      | _ => none
    else if c == '\n' && !q.triple then none
    else (upToQuote q r).map fun p => (c :: p.1, p.2)

/-- Is the character an octal digit? -/
def isOctal (c : Char) : Bool := '0' ≤ c && c ≤ '7'

/-- The code point that an escape of one letter stands for. -/
def letterEscape? (c : Char) : Option Nat :=
  if c == '\\' || c == '\'' || c == '"' then some c.toNat
  else if c == 'a' then some 7
  else if c == 'b' then some 8
  else if c == 't' then some 9
  else if c == 'n' then some 10
  else if c == 'v' then some 11
  else if c == 'f' then some 12
  else if c == 'r' then some 13
  else none

/-- The code point written by so many hexadecimal digits at the head of a text. -/
def hexPoint? (width : Nat) (s : List Char) : Option Nat := do
  let vs ← (s.take width).mapM Digits.value?
  let n := vs.foldl (fun n v => n * 16 + v) 0
  if vs.length = width && n < 0x110000 then some n else none

/-- The code point of the character whose name stands in braces at the head of a text, and how many
characters the braces take. -/
def namedPoint? : List Char → Option (Nat × Nat)
  | '\x7b' :: r =>
    let name := r.takeWhile (· != '\x7d')
    if name.length = r.length then none
    else (CharacterName.point? name).map fun n => (n, name.length + 2)
  | _ => none

/-- The code points that an escape stands for, and how many characters it takes after its backslash.
Texts know three escapes more than byte strings; an unknown escape stands for itself, an escaped
newline for nothing. -/
def escape? (inText : Bool) : List Char → Option (List Nat × Nat)
  | [] => some ([92], 0)
  | '\n' :: _ => some ([], 1)
  | c :: r =>
    if c == 'x' then (hexPoint? 2 r).map fun n => ([n], 3)
    else if inText && c == 'u' then (hexPoint? 4 r).map fun n => ([n], 5)
    else if inText && c == 'U' then (hexPoint? 8 r).map fun n => ([n], 9)
    else if inText && c == 'N' then (namedPoint? r).map fun p => ([p.1], p.2 + 1)
    else if isOctal c then
      let ds := ((c :: r).take 3).takeWhile isOctal
      some ([Digits.number 8 ds], ds.length)
    else match letterEscape? c with
    | some n => some ([n], 1)
    | none => some ([92, c.toNat], 1)

/-- The code points that the characters between quotes stand for, after some characters that have
been read already. -/
def unescape? (inText : Bool) : Nat → List Char → Option (List Nat)
  | _, [] => some []
  | read + 1, _ :: r => unescape? inText read r
  | 0, c :: r =>
    if c == '\\' then do
      let (points, width) ← escape? inText r
      return points ++ (← unescape? inText width r)
    else (unescape? inText 0 r).map (c.toNat :: ·)

/-- The value of a text given by its code points. -/
def ofPoints (points : List Nat) : Literal :=
  if points.any isSurrogate then .halves points else .text (String.ofList (points.map Char.ofNat))

end Monomorph.Literal
