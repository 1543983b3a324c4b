import Monomorph.Json
import Monomorph.Number.Digits
import Monomorph.Record

/-!
Reading JSON text. A machine with an explicit stack of open arrays and objects consumes the tokens of
the text one at a time, so the first fault in the text is the one that counts. The three names of
values that are no numbers are accepted.
-/

namespace Monomorph.Json

/-- Why a text is not read. -/
inductive ReadFault where
  /-- It is no JSON. -/
  | malformed
  /-- An integer has too many digits. -/
  | longInteger
  /-- Arrays and objects are nested too deeply. -/
  | tooDeep
  deriving DecidableEq, Repr

/-- A lexical element of JSON text. -/
inductive Tok where
  | openArr | closeArr | openObj | closeObj | comma | colon
  | text (points : List Nat)
  | scalar (v : Json)
  /-- An integer with too many digits. -/
  | longInteger
  deriving Inhabited

/-- The unit written by four hexadecimal digits. -/
def unit? (a b c d : Char) : Option Nat := do
  return (← Digits.value? a) * 4096 + (← Digits.value? b) * 256 + (← Digits.value? c) * 16 + (← Digits.value? d)

/-- The character of a simple escape. -/
def simpleEscape? (c : Char) : Option Char :=
  if c == '"' || c == '\\' || c == '/' then some c
  else if c == 'n' then some '\n'
  else if c == 'r' then some '\r'
  else if c == 't' then some '\t'
  else if c == 'b' then some (Char.ofNat 8)
  else if c == 'f' then some (Char.ofNat 12)
  else none

/-- Is the unit the first of a surrogate pair? -/
def isHighUnit (n : Nat) : Bool := 0xd800 ≤ n && n < 0xdc00

/-- Is the unit the second of a surrogate pair? -/
def isLowUnit (n : Nat) : Bool := 0xdc00 ≤ n && n < 0xe000

/-- The code points that a list of code points and 16-bit units stands for. -/
def joinUnits : List Nat → List Nat
  | high :: low :: r =>
    if isHighUnit high && isLowUnit low then
      (0x10000 + (high - 0xd800) * 1024 + (low - 0xdc00)) :: joinUnits r
    else high :: joinUnits (low :: r)
  | points => points

/-- The code points and units of a string after its opening quote, and the text after its closing
quote. -/
def unquote? : List Char → Option (List Nat × List Char)
  | [] => none
  | '"' :: r => some ([], r)
  | '\\' :: 'u' :: a :: b :: c :: d :: r =>
    match unit? a b c d with
    | none => none
    | some n => (unquote? r).map fun p => (n :: p.1, p.2)
  | '\\' :: c :: r =>
    match simpleEscape? c with
    | none => none
    | some e => (unquote? r).map fun p => (e.toNat :: p.1, p.2)
  | c :: r => if c.toNat < 32 then none else (unquote? r).map fun p => (c.toNat :: p.1, p.2)

/-- The number that decimal digits write. -/
def ofDigits (ds : List Char) : Nat := ds.foldl (fun n c => n * 10 + (c.toNat - 48)) 0

/-- A fraction: a dot and at least one digit. Answers the digits and the rest. -/
def fraction : List Char → List Char × List Char
  | '.' :: r =>
    let ds := r.takeWhile Char.isDigit
    if ds.isEmpty then ([], '.' :: r) else (ds, r.drop ds.length)
  | s => ([], s)

/-- An exponent: the letter, an optional sign and at least one digit. -/
def exponent? (s : List Char) : Option (Int × List Char) :=
  let signed (negative : Bool) (r : List Char) : Option (Int × List Char) :=
    let ds := r.takeWhile Char.isDigit
    if ds.isEmpty then none
    else some (if negative then -(ofDigits ds : Int) else ofDigits ds, r.drop ds.length)
  match s with
  | c :: '-' :: r => if c == 'e' || c == 'E' then signed true r else none
  | c :: '+' :: r => if c == 'e' || c == 'E' then signed false r else none
  | c :: r => if c == 'e' || c == 'E' then signed false r else none
  | [] => none

/-- A number without its sign: a zero or digits that start with none, then perhaps a fraction and
an exponent, either of which makes it a double. -/
def number? (negative : Bool) (s : List Char) : Option (Tok × List Char) :=
  let whole := match s with
    | '0' :: _ => ['0']
    | _ => s.takeWhile Char.isDigit
  if whole.isEmpty then none
  else
    let (part, rest) := fraction (s.drop whole.length)
    match exponent? rest with
    | some (e, rest) =>
      some (.scalar (double (Double.ofDecimal negative (ofDigits (whole ++ part))
        (e - part.length))), rest)
    | none =>
      if !part.isEmpty then
        some (.scalar (double (Double.ofDecimal negative (ofDigits (whole ++ part))
          (-part.length))), rest)
      else if Digits.most < whole.length then some (.longInteger, rest)
      else some (.scalar (int (if negative then -(ofDigits whole : Int) else ofDigits whole)), rest)

/-- Scalars that are written as names. -/
def named : List (List Char × Json) := [
  ("null".toList, null), ("true".toList, bool true), ("false".toList, bool false),
  ("NaN".toList, double .nan), ("Infinity".toList, double (.infinite false)),
  ("-Infinity".toList, double (.infinite true))]

/-- The token at the head of a text without leading blanks, and the text after it. -/
def token? (s : List Char) : Option (Tok × List Char) :=
  match s with
  | [] => none
  | '[' :: r => some (.openArr, r)
  | ']' :: r => some (.closeArr, r)
  | '\x7b' :: r => some (.openObj, r)
  | '\x7d' :: r => some (.closeObj, r)
  | ',' :: r => some (.comma, r)
  | ':' :: r => some (.colon, r)
  | '"' :: r => (unquote? r).map fun p => (.text (joinUnits p.1), p.2)
  | c :: r =>
    match named.find? fun n => n.1.isPrefixOf s with
    | some (name, v) => some (.scalar v, s.drop name.length)
    | none => if c == '-' then number? true r else number? false s

/-- A blank of JSON text. -/
def isSpace (c : Char) : Bool := c == ' ' || c == '\t' || c == '\n' || c == '\r'

/-- An array or object that is still open, with what it holds so far in reverse. -/
inductive Frame where
  | arr (done : List Json)
  | obj (done : List (FieldName × Json)) (name : FieldName)

/-- What the reader waits for. -/
inductive Mode where
  | value | valueOrClose | name | nameOrClose | colon | next
  | finished (v : Json)

/-- A reader in the middle of a text. -/
structure Machine where
  mode : Mode
  stack : List Frame
  /-- The fields read so far of an object that waits for a name. -/
  fields : List (FieldName × Json) := []
  /-- The name that waits for its colon. -/
  pending : FieldName := ""

/-- The machine after a complete value. -/
def Machine.feed (stack : List Frame) (v : Json) : Machine :=
  match stack with
  | [] => ⟨.finished v, [], [], ""⟩
  | .arr done :: rest => ⟨.next, .arr (v :: done) :: rest, [], ""⟩
  | .obj done name :: rest => ⟨.next, .obj (Record.put name v done) name :: rest, [], ""⟩

/-- How deeply arrays and objects may be nested. -/
def maxDepth : Nat := 985

/-- The machine after a value has begun with this token. -/
def Machine.begin (m : Machine) (t : Tok) : Except ReadFault Machine :=
  let opened (next : Machine) : Except ReadFault Machine :=
    if m.stack.length < maxDepth then .ok next else .error .tooDeep
  match t with
  | .openArr => opened ⟨.valueOrClose, .arr [] :: m.stack, [], ""⟩
  | .openObj => opened ⟨.nameOrClose, m.stack, [], ""⟩
  | .text points => .ok (feed m.stack (ofPoints points))
  | .scalar v => .ok (feed m.stack v)
  | .longInteger => .error .longInteger
  | _ => .error .malformed

/-- The machine after one more token. -/
def Machine.step (m : Machine) (t : Tok) : Except ReadFault Machine :=
  match m.mode, t with
  | .valueOrClose, .closeArr =>
    match m.stack with
    | .arr done :: rest => .ok (feed rest (.arr done.reverse))
    | _ => .error .malformed
  | .value, t | .valueOrClose, t => m.begin t
  | .nameOrClose, .closeObj => .ok (feed m.stack (.obj m.fields))
  | .nameOrClose, .text points | .name, .text points =>
    .ok ⟨.colon, m.stack, m.fields, .ofPoints points⟩
  | .colon, .colon => .ok ⟨.value, .obj m.fields m.pending :: m.stack, [], ""⟩
  | .next, .comma =>
    match m.stack with
    | .arr _ :: _ => .ok ⟨.value, m.stack, [], ""⟩
    | .obj done _ :: rest => .ok ⟨.name, rest, done, ""⟩
    | [] => .error .malformed
  | .next, .closeArr =>
    match m.stack with
    | .arr done :: rest => .ok (feed rest (.arr done.reverse))
    | _ => .error .malformed
  | .next, .closeObj =>
    match m.stack with
    | .obj done _ :: rest => .ok (feed rest (.obj done))
    | _ => .error .malformed
  | _, _ => .error .malformed

/-- The value that a machine has read after the rest of a text. -/
def Machine.run (m : Machine) (s : List Char) : Except ReadFault Json :=
  match s.dropWhile isSpace with
  | [] =>
    match m.mode with
    | .finished v => .ok v
    | _ => .error .malformed
  | c :: r =>
    match token? (c :: r) with
    | none => .error .malformed
    | some (t, rest) =>
      if rest.length < s.length then
        match m.step t with
        | .error fault => .error fault
        | .ok m => m.run rest
      else .error .malformed
termination_by s.length

/-- The value that a JSON text writes, or the first fault in it. -/
def read (text : String) : Except ReadFault Json := Machine.run ⟨.value, [], [], ""⟩ text.toList

end Monomorph.Json
