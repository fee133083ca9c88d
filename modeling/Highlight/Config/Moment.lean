/-
Dates and times.

As a name a moment is its fields with all of their digits (`shown`). Inside
a list or a table it is the expression that makes it (`literal`), without
the zeros at the end of the time.
-/
import Highlight.Text.Basic

namespace Highlight.Config

structure Date where
  year : Nat
  month : Nat
  day : Nat
deriving Repr, DecidableEq

/-- A time of the day, to the millionth part of a second. -/
structure Clock where
  hour : Nat
  minute : Nat
  second : Nat
  part : Nat
deriving Repr, DecidableEq

inductive Moment where
  | date (d : Date)
  | time (c : Clock)
  /-- A date and a time, perhaps with the minutes by which the clock is
  ahead of universal time. -/
  | both (d : Date) (c : Clock) (ahead : Option Int)
deriving Repr, DecidableEq

-- ============================================================== fields

/-- A number with zeros in front up to a width. -/
def padded (width n : Nat) : Text :=
  (Nat.toDigits 10 n).leftpad width '0'

/-- Sixty of the small unit make one of the large. -/
def sixties (n : Nat) : Text :=
  padded 2 (n / 60) ++ ':' :: padded 2 (n % 60)

namespace Date

/-- The number of days of a month. -/
def daysOf (year month : Nat) : Nat :=
  if month = 2 then
    if year % 4 = 0 ∧ (year % 100 ≠ 0 ∨ year % 400 = 0) then 29 else 28
  else if [4, 6, 9, 11].contains month then 30
  else 31

/-- Whether the day is in the calendar, which starts with the year 1. -/
def valid (d : Date) : Bool :=
  1 ≤ d.year && 1 ≤ d.month && d.month ≤ 12 && 1 ≤ d.day
    && d.day ≤ daysOf d.year d.month

def shown (d : Date) : Text :=
  padded 4 d.year ++ '-' :: padded 2 d.month ++ '-' :: padded 2 d.day

def fields (d : Date) : List Nat := [d.year, d.month, d.day]

end Date

namespace Clock

def shown (c : Clock) : Text :=
  padded 2 c.hour ++ ':' :: padded 2 c.minute ++ ':' :: padded 2 c.second
    ++ if c.part = 0 then [] else '.' :: padded 6 c.part

/-- The fields of a clock; the second and its part are left out when
nothing but zeros follows. -/
def fields (c : Clock) : List Nat :=
  if c.part ≠ 0 then [c.hour, c.minute, c.second, c.part]
  else if c.second ≠ 0 then [c.hour, c.minute, c.second]
  else [c.hour, c.minute]

end Clock

-- ============================================================= moments

namespace Moment

/-- The distance from universal time. -/
def distance (ahead : Int) : Text :=
  (if ahead < 0 then '-' else '+') :: sixties ahead.natAbs

def shown : Moment → Text
  | date d => d.shown
  | time c => c.shown
  | both d c ahead =>
    d.shown ++ ' ' :: c.shown ++ (ahead.map distance).getD []

/-- An expression that makes something of its arguments. -/
def made (name : String) (arguments : List Text) : Text :=
  ("datetime." ++ name).toList
    ++ '(' :: Text.join ", ".toList arguments ++ [')']

/-- The zone of a clock, where a zone behind universal time is a day back
and the rest of that day ahead. -/
def zone (ahead : Int) : Text :=
  if ahead = 0 then "datetime.timezone.utc".toList
  else
    let back := if ahead < 0 then ["days=-1".toList] else []
    let seconds := s!"seconds={ahead % 1440 * 60}".toList
    made "timezone" [made "timedelta" (back ++ [seconds])]

def literal : Moment → Text
  | date d => made "date" (d.fields.map (Nat.toDigits 10))
  | time c => made "time" (c.fields.map (Nat.toDigits 10))
  | both d c ahead =>
    let zoned := (ahead.map fun m => "tzinfo=".toList ++ zone m).toList
    made "datetime" ((d.fields ++ c.fields).map (Nat.toDigits 10) ++ zoned)

end Moment

end Highlight.Config
