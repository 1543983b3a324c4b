import Monomorph.ElementFormat
import Monomorph.Literal.Evaluation

/-!
Names of formats. A name is a letter code with a size, perhaps after a mark of the byte order, or one of
some words; dates and spans of time have their unit in brackets. Names with commas describe records, and
a number or shape in front of a name makes every element an array of its own.
-/

namespace Monomorph

open Text

/-- Why a name names no format. -/
inductive FormatFault where
  /-- Nothing has this name. -/
  | unknown
  /-- The parts of the name do not fit together. -/
  | malformed
  /-- A shape in the name is not written as one. -/
  | unread
  /-- The name describes a record without fields. -/
  | fieldless
  deriving DecidableEq, Repr

/-- What a name stands for: a format of elements, and the shapes of arrays that take the place of one
element, the outermost first. -/
structure Format where
  elements : ElementFormat
  shapes : List (List Nat) := []
  deriving DecidableEq, Repr

/-! Letter codes -/

namespace ScalarKind

/-- A blank that may stand in front of a number. -/
def isPadding (c : Char) : Bool := c == ' ' || (9 ≤ c.toNat && c.toNat ≤ 13)

/-- The integer at the head of a text, after blanks and perhaps a sign, and the rest. -/
def leadingInt? (s : List Char) : Option (Int × List Char) :=
  let unsigned? (r : List Char) : Option (Nat × List Char) :=
    let ds := r.takeWhile Char.isDigit
    if ds.isEmpty then none else some (Digits.number 10 ds, r.drop ds.length)
  match s.dropWhile isPadding with
  | '-' :: r => (unsigned? r).map fun p => (-(p.1 : Int), p.2)
  | '+' :: r => (unsigned? r).map fun p => ((p.1 : Int), p.2)
  | r => (unsigned? r).map fun p => ((p.1 : Int), p.2)

/-- The widths in bits that numbers have. -/
def widths : List (Char × List Nat) :=
  [('i', [8, 16, 32, 64]), ('u', [8, 16, 32, 64]), ('f', [16, 32, 64, 128]), ('c', [64, 128, 256])]

/-- The most bytes that an element can have. -/
def mostBytes : Nat := 2147483647

/-- The kind with elements of some length, if they are not too long. -/
def withLength? (length : Nat) (kind : ScalarKind) : Option ScalarKind :=
  let kind := kind.ofLength length
  if kind.size ≤ mostBytes then some kind else none

/-- The kind with a letter and a size. -/
def ofSized? (letter : Char) (size : Nat) : Option ScalarKind :=
  let wide (make : Nat → ScalarKind) : Option ScalarKind :=
    if ((widths.lookup letter).getD []).contains (8 * size) then some (make (8 * size)) else none
  match letter with
  | 'b' => if size == 1 then some boolean else none
  | 'i' => wide signed
  | 'u' => wide unsigned
  | 'f' => wide floating
  | 'c' => wide complex
  | 'O' => if size == 4 || size == 8 then some reference else none
  | 'M' => if size == 8 then some (instant .generic) else none
  | 'm' => if size == 8 then some (span .generic) else none
  | 'U' => (text 0).withLength? size
  | 'S' | 'a' => (bytes 0).withLength? size
  | 'V' => (raw 0).withLength? size
  | _ => none

/-- The kinds that one letter stands for. -/
def letters : List (Char × ScalarKind) := [
  ('?', boolean), ('b', signed 8), ('B', unsigned 8), ('h', signed 16), ('H', unsigned 16),
  ('i', signed 32), ('I', unsigned 32), ('l', signed 64), ('L', unsigned 64), ('q', signed 64),
  ('Q', unsigned 64), ('p', signed 64), ('P', unsigned 64), ('n', signed 64), ('N', unsigned 64),
  ('e', floating 16), ('f', floating 32), ('d', floating 64), ('g', floating 128), ('F', complex 64),
  ('D', complex 128), ('G', complex 256), ('O', reference), ('U', text 0), ('S', bytes 0),
  ('c', bytes 1), ('V', raw 0), ('M', instant .generic), ('m', span .generic), ('T', longText)]

/-- The kinds with a name of their own. -/
def names : List (String × ScalarKind) := [
  ("bool", boolean), ("bool_", boolean), ("byte", signed 8), ("ubyte", unsigned 8),
  ("short", signed 16), ("ushort", unsigned 16), ("intc", signed 32), ("uintc", unsigned 32),
  ("int", signed 64), ("int_", signed 64), ("uint", unsigned 64), ("long", signed 64),
  ("ulong", unsigned 64), ("longlong", signed 64), ("ulonglong", unsigned 64),
  ("intp", signed 64), ("uintp", unsigned 64), ("int8", signed 8), ("int16", signed 16),
  ("int32", signed 32), ("int64", signed 64), ("uint8", unsigned 8), ("uint16", unsigned 16),
  ("uint32", unsigned 32), ("uint64", unsigned 64), ("half", floating 16),
  ("single", floating 32), ("double", floating 64), ("float", floating 64),
  ("longdouble", floating 128), ("float16", floating 16), ("float32", floating 32),
  ("float64", floating 64), ("float128", floating 128), ("csingle", complex 64),
  ("cdouble", complex 128), ("complex", complex 128), ("clongdouble", complex 256),
  ("complex64", complex 64), ("complex128", complex 128), ("complex256", complex 256),
  ("object", reference), ("object_", reference), ("str", text 0), ("str_", text 0),
  ("bytes", bytes 0), ("bytes_", bytes 0), ("a", bytes 0), ("unicode", text 0), ("void", raw 0)]

/-- The kind for a letter code without its byte order. -/
def ofCode? : List Char → Option ScalarKind
  | [] => none
  | [letter] => letters.lookup letter
  | letter :: size =>
    match leadingInt? size with
    | some (.ofNat n, []) => ofSized? letter n
    | _ => none

/-- The words that start the name of a date or a span of time. -/
def timeWords : List (String × (TimeStep → ScalarKind)) :=
  [("M8", instant), ("m8", span), ("datetime64", instant), ("timedelta64", span)]

/-- A divisor as it counts: the nearest that 64 bits hold, of which 32 are taken. -/
def divisorOf (n : Int) : Int :=
  let bound : Int := Nat.pow 2 63
  TimeStep.wrapped (max (-bound) (min n (bound - 1)))

/-- The step that stands in brackets: perhaps a count, a unit, and perhaps a slash with a divisor. -/
def bracketed (s : List Char) : Except FormatFault TimeStep :=
  let (count, rest) := (leadingInt? s).getD (1, s)
  let unit := rest.takeWhile (· != '/')
  if count < 0 || 2147483647 < count then .error .unknown
  else match TimeUnit.ofText? (String.ofList unit), rest.drop unit.length with
  | none, _ => .error .unknown
  | some unit, [] => .ok ⟨count, unit⟩
  | some unit, _ :: divisor =>
    match leadingInt? divisor with
    | some (d, []) =>
      if divisorOf d == 1 then .ok ⟨count, unit⟩
      else match TimeStep.divided? ⟨count, unit⟩ (divisorOf d) with
        | some step => .ok step
        | none => .error .malformed
    | _ => .error .unknown

/-- The step of a date or a span, which stands in brackets or is left open. Nothing may follow the
brackets. -/
def step (s : List Char) : Except FormatFault TimeStep :=
  match s with
  | [] => .ok .generic
  | '[' :: r => do
    let inner := r.takeWhile (· != ']')
    if inner.length == r.length then throw .unknown
    let step ← bracketed inner
    if r.length == inner.length + 1 then return step else throw .unknown
  | _ => .error .unknown

/-- A date or a span of time, if the text starts like one. -/
def ofTime? (s : List Char) : Option (Except FormatFault ScalarKind) :=
  (timeWords.find? fun w => w.1.toList.isPrefixOf s).map fun w =>
    (step (s.drop w.1.length)).map w.2

end ScalarKind

/-- The format with a name that has neither commas nor a shape. The marks `<`, `=` and `|` stand for the
machine's byte order, `>` for the other. -/
def Scalar.ofName (name : List Char) : Except FormatFault Scalar :=
  let (swapped, code) := match name with
    | '<' :: s | '=' :: s | '|' :: s => (false, s)
    | '>' :: s => (true, s)
    | s => (false, s)
  match ScalarKind.ofTime? code with
  | some kind => kind.map (Scalar.make swapped)
  | none =>
    match ScalarKind.ofCode? code, ScalarKind.names.lookup (String.ofList name) with
    | some kind, _ => .ok (Scalar.make swapped kind)
    | none, some kind => .ok (Scalar.make false kind)
    | none, none => .error .unknown

namespace Format

/-! Shapes in front of a name -/

/-- A mark of the byte order. -/
def isOrder (c : Char) : Bool := c == '<' || c == '>' || c == '|' || c == '='

/-- Is there a comma outside square brackets? -/
def hasComma (depth : Int) : List Char → Bool
  | [] => false
  | c :: r =>
    if c == ',' && depth == 0 then true
    else hasComma (if c == '[' then depth + 1 else if c == ']' then depth - 1 else depth) r

/-- Does the name describe a record or start with a shape? -/
def isCompound (name : List Char) : Bool :=
  let starts (s : List Char) : Bool :=
    match s with
    | '(' :: ')' :: _ => true
    | c :: _ => c.isDigit
    | [] => false
  let marked := match name with
    | c :: r => isOrder c && starts r
    | [] => false
  starts name || marked || hasComma 0 name

/-- One part of a compound name: perhaps a number or a shape, and the rest of the name with its mark of
the byte order. -/
structure Part where
  shape : Option Literal
  name : List Char

/-- The longest start of a text whose characters pass a test, at most so many, and the rest. -/
def taken (most : Option Nat) (test : Char → Bool) (s : List Char) : List Char × List Char :=
  let head := s.takeWhile test
  let head := match most with
    | some n => head.take n
    | none => head
  (head, s.drop head.length)

/-- The unit in brackets at the head of a text, if there is one, and the rest. -/
def bracket (s : List Char) : List Char × List Char :=
  match s with
  | '[' :: r =>
    let inner := r.takeWhile fun c => c.isAlphanum || c == ',' || c == '.'
    match r.drop inner.length with
    | ']' :: rest => ('[' :: (inner ++ [']']), rest)
    | _ => ([], s)
  | _ => ([], s)

/-- The mark that two marks of the byte order make together. The machine's own order needs none. -/
def orderOf (a b : List Char) : Except FormatFault (List Char) :=
  let plain (o : List Char) : List Char := if o == ['='] then ['<'] else o
  let order := if b.isEmpty then a else if a.isEmpty then b else plain a
  if !a.isEmpty && !b.isEmpty && plain a != plain b then .error .malformed
  else .ok (if order == ['>'] then order else [])

/-- A number or a shape in front of a name. -/
def shape? (s : List Char) : Except FormatFault (Option Literal) :=
  if s.isEmpty then .ok none
  else match Literal.read s with
    | .ok shape => .ok (some shape)
    | .error _ => .error .unread

/-- A comma with blanks around it. -/
def afterComma? (s : List Char) : Option (List Char) :=
  match s.dropWhile isBlank with
  | ',' :: r => some (r.dropWhile isBlank)
  | _ => none

/-- The part at the head of a compound name, the rest, and whether a comma stands between them. -/
def part (s : List Char) : Except FormatFault (Part × List Char × Bool) := do
  let blank := taken none (· == ' ')
  let (first, s) := taken (some 1) isOrder s
  let (a, s) := blank s
  let (b, s) := taken (some 1) (· == '(') s
  let (c, s) := taken none (fun c => c == ' ' || c == ',' || c.isDigit) s
  let (d, s) := taken (some 1) (· == ')') s
  let (e, s) := blank s
  let (second, s) := taken (some 1) isOrder s
  let (code, s) := taken none (fun c => c.isAlphanum || c == '.' || c == '?') s
  let (unit, s) := bracket s
  let (rest, isList) ←
    if s.all isBlank then pure ([], false)
    else match afterComma? s with
      | some rest => pure (rest, true)
      | none => throw .malformed
  let name := (← orderOf first second) ++ code ++ unit
  return (⟨← shape? (a ++ b ++ c ++ d ++ e), name⟩, rest, isList)

/-- The parts of a compound name, and whether a comma stands behind one of them. -/
def parts (fuel : Nat) (s : List Char) : Except FormatFault (List Part × Bool) :=
  match fuel, s with
  | _, [] => .ok ([], false)
  | 0, _ => .error .malformed
  | fuel + 1, s => do
    let (p, rest, isList) ← part s
    let (ps, more) ← parts fuel rest
    return (p :: ps, isList || more)

/-- The number of elements of a shape; nothing if 64 bits do not hold the number of elements of its first
dimensions, as long as none of them is empty. -/
def count? (shape : List Nat) : Option Nat :=
  shape.foldlM (fun n d => if n * d < Nat.pow 2 63 then some (n * d) else none) 1

/-- The number of bytes of a field. -/
def bytes (f : Field) : Nat := f.shapes.flatten.foldl (· * ·) f.scalar.kind.size

/-- A field whose elements are arrays of some shape. -/
def arrayed (f : Field) (shape : List Nat) : Except FormatFault Field :=
  match count? shape with
  | some n =>
    if mostDimensions < shape.length || shape.any (ScalarKind.mostBytes < ·)
      || ScalarKind.mostBytes < n || ScalarKind.mostBytes < n * bytes f then .error .malformed
    else .ok ⟨f.scalar, shape :: f.shapes⟩
  | none => .error .malformed

/-- What a number or a shape, if there is one, makes of a field: elements of a length, if they have no
bytes yet, or elements that are arrays. The empty shape changes nothing. -/
def shaped (f : Field) (shape : Option Literal) : Except FormatFault Field :=
  let nat? (v : Literal) : Option Nat :=
    match v with
    | .int (.ofNat n) => some n
    | _ => none
  match shape, bytes f == 0 with
  | none, _ => .ok f
  | some (.int (.ofNat n)), true =>
    match f.scalar.kind.withLength? n with
    | some kind => .ok (if f.shapes.isEmpty then ⟨⟨kind, f.scalar.swapped⟩, []⟩ else f)
    | none => .error .malformed
  | some (.int (.ofNat n)), false => arrayed f [n]
  | some (.tuple items), false =>
    match items.mapM nat? with
    | some [] => .ok f
    | some ns => arrayed f ns
    | none => .error .malformed
  | _, _ => .error .malformed

/-- The field with a name that has no commas. The fuel bounds how often names stand within names. -/
def field (fuel : Nat) (name : List Char) : Except FormatFault Field :=
  match fuel with
  | 0 => .error .unknown
  | fuel + 1 =>
    if !isCompound name then (Scalar.ofName name).map fun s => ⟨s, []⟩
    else do
      match ← parts name.length name with
      | ([p], false) => shaped (← field fuel p.name) p.shape
      | _ => throw .unknown

/-- The field of a part of a name. -/
def ofPart (p : Part) : Except FormatFault Field := do
  shaped (← field (p.name.length + 1) p.name) p.shape

/-- The record with some parts as its fields. A last part that is empty does not count. -/
def record (ps : List Part) : Except FormatFault ElementFormat := do
  let isVoid := (ps.getLast?.map fun p => p.shape.isNone && p.name.isEmpty).getD true
  let ps := if isVoid then ps.dropLast else ps
  if ps.isEmpty then throw .fieldless
  return .record (← ps.mapM ofPart)

/-- The format with a name. -/
def ofName (name : String) : Except FormatFault Format := do
  let name := name.toList
  if name.isEmpty then throw .unknown
  if !isCompound name then return ⟨.scalar (← Scalar.ofName name), []⟩
  match ← parts name.length name with
  | ([p], false) =>
    let f ← ofPart p
    return ⟨.scalar f.scalar, f.shapes⟩
  | (ps, _) => return ⟨← record ps, []⟩

/-- The element type of a format, if it is one. -/
def element? (f : Format) : Option Element := if f.shapes.isEmpty then f.elements.element? else none

/-- The shape that takes the place of an element. -/
def inner (f : Format) : List Nat := f.shapes.flatten

/-- Does a format that is asked for mean that of the elements of an array? -/
def means (asked : Format) (actual : ElementFormat) : Bool :=
  asked.shapes.isEmpty && asked.elements.means actual

end Format

end Monomorph
