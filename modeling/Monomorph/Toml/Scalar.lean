import Monomorph.Config.Setting
import Monomorph.Toml.Text

/-!
Scalars of a TOML document: truth values, numbers, dates and times, and texts. What stands at the
head of the characters decides the kind; only a date that names no day of the calendar and an
integer with too many digits are refused after that.
-/

namespace Monomorph.Toml

/-- A decimal field of fixed width within bounds. -/
def field? (width least most : Nat) (s : List Char) : Option (Nat × List Char) :=
  let ds := s.take width
  let n := Digits.number 10 ds
  if ds.length = width && ds.all Char.isDigit && least ≤ n && n ≤ most then some (n, s.drop width)
  else none

/-- The characters behind an expected one. -/
def past? (c : Char) : List Char → Option (List Char)
  | [] => none
  | d :: r => if d == c then some r else none

/-- Is the year one with a leap day? -/
def isLeap (year : Nat) : Bool := (year % 4 == 0 && year % 100 != 0) || year % 400 == 0

/-- The number of days in a month. -/
def daysIn (year month : Nat) : Nat :=
  if month = 2 then if isLeap year then 29 else 28
  else if month = 4 ∨ month = 6 ∨ month = 9 ∨ month = 11 then 30
  else 31

/-- Does the date name a day of the calendar? There is no year zero. -/
def isDay (d : Date) : Bool := 1 ≤ d.year && d.day ≤ daysIn d.year d.month

/-- A date at the head of the characters, whether or not it names a day. -/
def date? (s : List Char) : Option (Date × List Char) := do
  let (year, s) ← field? 4 0 9999 s
  let (month, s) ← field? 2 1 12 (← past? '-' s)
  let (day, s) ← field? 2 1 31 (← past? '-' s)
  return (⟨year, month, day⟩, s)

/-- The microseconds that a fraction of a second writes; digits beyond the sixth are dropped. -/
def microseconds (s : List Char) : Nat × List Char :=
  match s with
  | '.' :: r =>
    let ds := r.takeWhile Char.isDigit
    if ds.isEmpty then (0, s)
    else (Digits.number 10 ((ds ++ List.replicate 6 '0').take 6), r.drop ds.length)
  | _ => (0, s)

/-- A time of day at the head of the characters. -/
def time? (s : List Char) : Option (Time × List Char) := do
  let (hour, s) ← field? 2 0 23 s
  let (minute, s) ← field? 2 0 59 (← past? ':' s)
  let (second, s) ← field? 2 0 59 (← past? ':' s)
  let (microsecond, s) := microseconds s
  return (⟨hour, minute, second, microsecond⟩, s)

/-- The distance of a zone in minutes, at the head of the characters. -/
def zone? (s : List Char) : Option (Int × List Char) :=
  let distance? (r : List Char) : Option (Nat × List Char) := do
    let (hours, r) ← field? 2 0 23 r
    let (minutes, r) ← field? 2 0 59 (← past? ':' r)
    return (hours * 60 + minutes, r)
  match s with
  | 'Z' :: r => some (0, r)
  | 'z' :: r => some (0, r)
  | '+' :: r => (distance? r).map fun p => ((p.1 : Int), p.2)
  | '-' :: r => (distance? r).map fun p => (-(p.1 : Int), p.2)
  | _ => none

/-- The time that follows a date, with its zone if it has one. -/
def timeOfDate? (s : List Char) : Option (Time × Option Int × List Char) :=
  match s with
  | c :: r =>
    if c == 'T' || c == 't' || c == ' ' then
      (time? r).map fun p =>
        match zone? p.2 with
        | some z => (p.1, some z.1, z.2)
        | none => (p.1, none, p.2)
    else none
  | [] => none

/-- A date, a moment or a time of day at the head of the characters. -/
def calendar? (s : List Char) : Option (Reading Setting) :=
  match date? s with
  | some (d, r) =>
    some (if !isDay d then .error .malformed
      else match timeOfDate? r with
      | some (t, zone, r) => .ok (.moment d t zone, r)
      | none => .ok (.date d, r))
  | none => (time? s).map fun p => .ok (.time p.1, p.2)

/-- The base that a letter after a zero announces. -/
def base? (c : Char) : Option Nat :=
  if c == 'x' then some 16 else if c == 'o' then some 8 else if c == 'b' then some 2 else none

/-- An integer in a base other than ten. -/
def basedInteger? : List Char → Option (Nat × List Char)
  | '0' :: c :: r =>
    match base? c with
    | some base =>
      let (ds, rest) := Digits.run (Digits.isIn base) r
      if ds.isEmpty then none else some (Digits.number base ds, rest)
    | none => none
  | _ => none

/-- The digits of a fraction. -/
def fraction (s : List Char) : List Char × List Char :=
  match s with
  | '.' :: r =>
    let (ds, rest) := Digits.run Char.isDigit r
    if ds.isEmpty then ([], s) else (ds, rest)
  | _ => ([], s)

/-- An exponent: the letter, perhaps a sign, and digits. -/
def exponent? (s : List Char) : Option (Int × List Char) :=
  let digits? (negative : Bool) (r : List Char) : Option (Int × List Char) :=
    let (ds, rest) := Digits.run Char.isDigit r
    if ds.isEmpty then none
    else some (if negative then -(Digits.number 10 ds : Int) else Digits.number 10 ds, rest)
  match s with
  | c :: r =>
    if c != 'e' && c != 'E' then none
    else match r with
    | '-' :: r => digits? true r
    | '+' :: r => digits? false r
    | _ => digits? false r
  | [] => none

/-- A decimal number without its sign: a zero or digits that start with none, then perhaps a fraction
and an exponent, either of which makes it a double. -/
def decimal? (negative : Bool) (s : List Char) : Option (Reading Setting) :=
  let (whole, rest) := match s with
    | '0' :: r => (['0'], r)
    | _ => Digits.run Char.isDigit s
  if whole.isEmpty then none
  else
    let (part, afterPart) := fraction rest
    let double (e : Int) : Setting :=
      .double (Double.ofDecimal negative (Digits.number 10 (whole ++ part)) (e - part.length))
    some (match exponent? afterPart with
      | some (e, r) => .ok (double e, r)
      | none =>
        if !part.isEmpty then .ok (double 0, afterPart)
        else if Digits.most < whole.length then .error .longInteger
        else
          let n : Int := Digits.number 10 whole
          .ok (.int (if negative then -n else n), rest))

/-- A number at the head of the characters. -/
def number? (s : List Char) : Option (Reading Setting) :=
  match basedInteger? s with
  | some (n, r) => some (.ok (.int n, r))
  | none =>
    match s with
    | '-' :: r => decimal? true r
    | '+' :: r => decimal? false r
    | _ => decimal? false s

/-- Scalars that are written as names. -/
def named : List (List Char × Setting) := [
  ("true".toList, .bool true), ("false".toList, .bool false),
  ("inf".toList, .double (.infinite false)), ("+inf".toList, .double (.infinite false)),
  ("-inf".toList, .double (.infinite true)), ("nan".toList, .double .nan),
  ("+nan".toList, .double .nan), ("-nan".toList, .double .nan)]

/-- A scalar at the head of the characters. -/
def scalar (s : List Char) : Reading Setting :=
  if s.head? == some '"' || s.head? == some '\'' then
    (text s).map fun p => (.text (String.ofList p.1), p.2)
  else match named.find? fun n => n.1.isPrefixOf s with
    | some (name, v) => .ok (v, s.drop name.length)
    | none => ((calendar? s).or (number? s)).getD (.error .malformed)

end Monomorph.Toml
