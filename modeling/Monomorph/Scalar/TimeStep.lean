/-!
Steps of time, in which dates and spans of time count: a number of units of one kind. A step may be
written as a part of a unit if that part is a whole number of some finer unit.
-/

namespace Monomorph

/-- Units of time. The generic one stands for no unit. -/
inductive TimeUnit where
  | year | month | week | day | hour | minute | second | milli | micro | nano | pico | femto | atto
  | generic
  deriving DecidableEq, Repr

namespace TimeUnit

/-- All units with their signs, from coarse to fine. -/
def signs : List (TimeUnit × String) := [
  (year, "Y"), (month, "M"), (week, "W"), (day, "D"), (hour, "h"), (minute, "m"), (second, "s"),
  (milli, "ms"), (micro, "us"), (nano, "ns"), (pico, "ps"), (femto, "fs"), (atto, "as"),
  (generic, "generic")]

/-- The sign of a unit. -/
def sign (u : TimeUnit) : String := (signs.lookup u).getD ""

/-- The place of a unit between the coarse and the fine ones. -/
def rank (u : TimeUnit) : Nat := (signs.map (·.1)).idxOf u

/-- The unit that a text names. The letter of the micro unit may be Greek. -/
def ofText? (s : String) : Option TimeUnit :=
  if s == "μs" then some micro else (signs.find? (·.2 == s)).map (·.1)

/-- How many of some finer units a unit has. A week has no years. -/
def finer : TimeUnit → List (Int × TimeUnit)
  | year => [(12, month), (52, week), (365, day)]
  | month => [(4, week), (30, day), (720, hour)]
  | week => [(7, day), (168, hour), (10080, minute), (0, year)]
  | day => [(24, hour), (1440, minute), (86400, second)]
  | hour => [(60, minute), (3600, second)]
  | minute => [(60, second), (60000, milli)]
  | second => [(1000, milli), (1000000, micro)]
  | milli => [(1000, micro), (1000000, nano)]
  | micro => [(1000, nano), (1000000, pico)]
  | nano => [(1000, pico), (1000000, femto)]
  | pico => [(1000, femto), (1000000, atto)]
  | femto => [(1000, atto)]
  | atto => []
  | generic => []

end TimeUnit

/-- A number of units of time. -/
structure TimeStep where
  count : Int
  unit : TimeUnit
  deriving DecidableEq, Repr

namespace TimeStep

/-- The step that is left open. -/
def generic : TimeStep := ⟨1, .generic⟩

/-- A number as 32 bits hold it. -/
def wrapped (n : Int) : Int := n.bmod (Nat.pow 2 32)

/-- A step as it is written in brackets. -/
def text (s : TimeStep) : String :=
  if s.unit == .generic then ""
  else if s.count == 1 then s!"[{s.unit.sign}]"
  else s!"[{s.count}{s.unit.sign}]"

/-- A part of a step, in the first finer unit of which a unit has a number that the divisor divides. -/
def divided? (s : TimeStep) (divisor : Int) : Option TimeStep :=
  (s.unit.finer.find? fun f => f.1.tmod divisor == 0).map fun f =>
    ⟨wrapped (s.count * f.1.tdiv divisor), f.2⟩

/-- Does a step that is asked for mean another one? From seconds on, it may also be written in a unit
that is up to three places finer, with a thousand times as many for each place. -/
def means (asked actual : TimeStep) : Bool :=
  asked == actual || (TimeUnit.second.rank ≤ actual.unit.rank && [1, 2, 3].any fun places =>
    asked.unit.rank == actual.unit.rank + places
      && asked.count.tdiv actual.count == Nat.pow 1000 places)

end TimeStep

end Monomorph
