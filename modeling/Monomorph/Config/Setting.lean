import Monomorph.FieldName
import Monomorph.Number.Digits
import Monomorph.Number.Shortest
import Monomorph.Text.Blank

/-!
Settings: the values that a configuration document can hold. Nothing is converted on the way in, so
a setting of the wrong kind can be reported as it was written.
-/

namespace Monomorph

/-- A calendar date. -/
structure Date where
  year : Nat
  month : Nat
  day : Nat
  deriving DecidableEq, Repr

/-- A time of day. -/
structure Time where
  hour : Nat
  minute : Nat
  second : Nat
  microsecond : Nat
  deriving DecidableEq, Repr

/-- The value of a setting. -/
inductive Setting where
  | null
  | bool (b : Bool)
  | int (n : Int)
  | double (x : Double)
  | text (s : String)
  /-- A text in which a surrogate stands alone, as its code points. -/
  | halves (points : List Nat)
  | date (d : Date)
  | time (t : Time)
  /-- A date and a time, perhaps with the minutes by which the zone is ahead. -/
  | moment (d : Date) (t : Time) (offset : Option Int)
  | list (items : List Setting)
  | table (fields : List (FieldName × Setting))
  deriving Repr, Inhabited

namespace Setting

open Text

/-- Numbers as an argument list. -/
def numbers (ns : List Nat) : List String := ns.map fun n => toString n

/-- The parts of a time that are worth writing; at least the first two. -/
def timeParts (t : Time) : List Nat :=
  if t.microsecond != 0 then [t.hour, t.minute, t.second, t.microsecond]
  else if t.second != 0 then [t.hour, t.minute, t.second]
  else [t.hour, t.minute]

/-- A zone by its distance in minutes. A zone behind is a negative day and the seconds back. -/
def zoneText (minutes : Int) : String :=
  if minutes = 0 then "tzinfo=datetime.timezone.utc"
  else
    let distance :=
      if minutes < 0 then s!"days=-1, seconds={(minutes + 1440) * 60}" else s!"seconds={minutes * 60}"
    s!"tzinfo=datetime.timezone(datetime.timedelta({distance}))"

mutual

/-- A setting as messages show it. -/
def shown : Setting → String
  | null => "None"
  | bool b => if b then "True" else "False"
  | int n => toString n
  | double x => x.toText
  | text s => Text.shown s
  | halves points => Text.shownPoints points
  | date d => "datetime.date(" ++ join ", " (numbers [d.year, d.month, d.day]) ++ ")"
  | time t => "datetime.time(" ++ join ", " (numbers (timeParts t)) ++ ")"
  | moment d t offset =>
    "datetime.datetime(" ++
      join ", " (numbers ([d.year, d.month, d.day] ++ timeParts t) ++ offset.toList.map zoneText) ++
      ")"
  | list items => "[" ++ join ", " (shownItems items) ++ "]"
  | table fields => "\x7b" ++ join ", " (shownFields fields) ++ "\x7d"

/-- The items of a list as messages show them. -/
def shownItems : List Setting → List String
  | [] => []
  | v :: rest => shown v :: shownItems rest

/-- The fields of a table as messages show them. -/
def shownFields : List (FieldName × Setting) → List String
  | [] => []
  | (name, v) :: rest => (name.shown ++ ": " ++ shown v) :: shownFields rest

end

mutual

/-- Can the setting be shown? An integer with too many digits cannot, wherever it stands. -/
def isShowable : Setting → Bool
  | int n => n.natAbs < Nat.pow 10 Digits.most
  | list items => areShowable items
  | table fields => areFieldsShowable fields
  | _ => true

/-- Can the items of a list be shown? -/
def areShowable : List Setting → Bool
  | [] => true
  | v :: rest => isShowable v && areShowable rest

/-- Can the fields of a table be shown? -/
def areFieldsShowable : List (FieldName × Setting) → Bool
  | [] => true
  | (_, v) :: rest => isShowable v && areFieldsShowable rest

end

/-- Does the setting count as yes? Nothing, zero and whatever is empty count as no. -/
def isTrue : Setting → Bool
  | null => false
  | bool b => b
  | int n => n != 0
  | double x => !x.isZero
  | text s => s != ""
  | list items => !items.isEmpty
  | table fields => !fields.isEmpty
  | _ => true

end Setting

end Monomorph
