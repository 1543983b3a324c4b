import Monomorph.Json
import Monomorph.Number.Shortest
import Monomorph.Text.Blank

/-!
The text of a JSON value. A style fixes what the format leaves open: the indentation, whether
characters outside printable ASCII are escaped, and whether the fields of objects are sorted.
-/

namespace Monomorph.Json

open Text

/-- The layout of JSON text. -/
structure Style where
  /-- Spaces per level, each item on its own line; `none` keeps everything on one line. -/
  indent : Option Nat := none
  /-- Escape every character outside printable ASCII. -/
  ascii : Bool := true
  /-- Sort the fields of objects by name. -/
  sorted : Bool := false

/-- The lower-case hexadecimal digit of a number below sixteen. -/
def hexDigit (n : Nat) : Char := if n < 10 then Char.ofNat (48 + n) else Char.ofNat (87 + n)

/-- The escape of one 16-bit unit. -/
def unitEscape (n : Nat) : List Char :=
  ['\\', 'u', hexDigit (n / 4096 % 16), hexDigit (n / 256 % 16), hexDigit (n / 16 % 16),
    hexDigit (n % 16)]

/-- The escape of a character: one unit, or a surrogate pair above U+FFFF. -/
def charEscape (n : Nat) : List Char :=
  if n < 0x10000 then unitEscape n
  else unitEscape (0xd800 + (n - 0x10000) / 1024) ++ unitEscape (0xdc00 + (n - 0x10000) % 1024)

/-- One character inside quotes. -/
def quoteChar (ascii : Bool) (c : Char) : List Char :=
  if c == '"' then ['\\', '"']
  else if c == '\\' then ['\\', '\\']
  else if c == '\n' then ['\\', 'n']
  else if c == '\r' then ['\\', 'r']
  else if c == '\t' then ['\\', 't']
  else if c.toNat = 8 then ['\\', 'b']
  else if c.toNat = 12 then ['\\', 'f']
  else if c.toNat < 32 then charEscape c.toNat
  else if ascii && 126 < c.toNat then charEscape c.toNat
  else [c]

/-- One code point inside quotes. A surrogate is always escaped. -/
def quotePoint (ascii : Bool) (n : Nat) : List Char :=
  if isSurrogate n then unitEscape n else quoteChar ascii (Char.ofNat n)

/-- A text between quotes. -/
def quoteOf (ascii : Bool) (s : List Char) : List Char :=
  '"' :: (s.flatMap (quoteChar ascii) ++ ['"'])

/-- Code points between quotes. -/
def quotePoints (ascii : Bool) (points : List Nat) : List Char :=
  '"' :: (points.flatMap (quotePoint ascii) ++ ['"'])

/-- The decimal text of an integer. -/
def intText (n : Int) : List Char :=
  if n < 0 then '-' :: Double.digitsOf n.natAbs else Double.digitsOf n.natAbs

/-- The text of a double; the values that are no numbers have names. -/
def doubleText (x : Double) : List Char :=
  match x with
  | .finite .. => (x.toText).toList
  | .infinite s => (if s then "-Infinity" else "Infinity").toList
  | .nan => "NaN".toList

/-- The line break before an item at the given depth, or nothing on one line. -/
def lineBreak (style : Style) (depth : Nat) : List Char :=
  match style.indent with
  | some n => '\n' :: List.replicate (n * depth) ' '
  | none => []

/-- What stands between two items at the given depth. -/
def separator (style : Style) (depth : Nat) : List Char :=
  match style.indent with
  | some _ => ',' :: lineBreak style depth
  | none => [',', ' ']

/-- Printed fields in the order of their names. -/
def sortFields (fields : List (FieldName × List Char)) : List (FieldName × List Char) :=
  fields.mergeSort fun a b => !decide (b.1.points < a.1.points)

mutual

/-- The text of a value whose items stand below the given depth. -/
def printAt (style : Style) (depth : Nat) : Json → List Char
  | null => "null".toList
  | bool b => (if b then "true" else "false").toList
  | int n => intText n
  | double x => doubleText x
  | str s => quoteOf style.ascii s.toList
  | halves points => quotePoints style.ascii points
  | arr [] => ['[', ']']
  | arr items =>
    '[' :: (lineBreak style (depth + 1) ++
      joinWith (separator style (depth + 1)) (printItems style (depth + 1) items) ++
      lineBreak style depth ++ [']'])
  | obj [] => ['\x7b', '\x7d']
  | obj fields =>
    let printed := printFields style (depth + 1) fields
    let ordered := if style.sorted then sortFields printed else printed
    '\x7b' :: (lineBreak style (depth + 1) ++
      joinWith (separator style (depth + 1))
        (ordered.map fun f => quotePoints style.ascii f.1.points ++ [':', ' '] ++ f.2) ++
      lineBreak style depth ++ ['\x7d'])

/-- The texts of the items of an array. -/
def printItems (style : Style) (depth : Nat) : List Json → List (List Char)
  | [] => []
  | v :: rest => printAt style depth v :: printItems style depth rest

/-- The names of an object with the texts of their values. -/
def printFields (style : Style) (depth : Nat) :
    List (FieldName × Json) → List (FieldName × List Char)
  | [] => []
  | (name, v) :: rest => (name, printAt style depth v) :: printFields style depth rest

end

/-- The text of a value. -/
def print (v : Json) (style : Style := ⟨none, true, false⟩) : String :=
  String.ofList (printAt style 0 v)

end Monomorph.Json
