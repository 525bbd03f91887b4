/-!
# The calendar

Years are counted as in the proleptic Gregorian calendar, with a year 0 and negative years.  Two rules
for the length of February live side by side:

* `hasLeapDay` — the rule for what may be written: every fourth year has a 29 February;
* `isGregorianLeap` — the rule of the Gregorian calendar.

Days are counted from the first of a month (`Date.later?`), which reconciles them: a 29 February that the
Gregorian calendar does not know is the day after 28 February, which is 1 March.
-/

namespace FormValidation
namespace Calendar

/-! ## Years and months -/

/-- Whether 29 February of the year may be written: in every fourth year. -/
def hasLeapDay (year : Int) : Bool :=
  year % 4 == 0

/-- Whether the Gregorian calendar has a 29 February in the year. -/
def isGregorianLeap (year : Int) : Bool :=
  year % 4 == 0 && (year % 100 != 0 || year % 400 == 0)

/-- The lengths of the months, January first, in a year without a 29 February. -/
def monthLengths : List Nat :=
  [31, 28, 31, 30, 31, 30, 31, 31, 30, 31, 30, 31]

/-- How many days of a month, counted from 0 for January, may be written. -/
def daysInMonth? (year month0 : Int) : Option Nat :=
  if month0 < 0 then none
  else
    (monthLengths[month0.toNat]?).map fun days =>
      if month0 == 1 && hasLeapDay year then 29 else days

/-- How many days a month has in the Gregorian calendar. -/
def gregorianDays (year : Int) (month : Nat) : Nat :=
  match month with
  | 2 => if isGregorianLeap year then 29 else 28
  | 4 | 6 | 9 | 11 => 30
  | _ => 31

/-- The years that can be told apart from others. -/
def yearInRange (year : Int) : Bool :=
  -262143 ≤ year && year ≤ 262142

end Calendar

/-! ## Days -/

/-- A day of the Gregorian calendar. -/
structure Date where
  year : Int
  month : Nat
  day : Nat
  deriving Repr, DecidableEq

namespace Date

/-- The first day of a month. -/
def first? (year : Int) (month : Nat) : Option Date :=
  if Calendar.yearInRange year && 1 ≤ month && month ≤ 12 then some ⟨year, month, 1⟩ else none

/-- The day after. -/
def next (d : Date) : Date :=
  if d.day < Calendar.gregorianDays d.year d.month then { d with day := d.day + 1 }
  else if d.month < 12 then ⟨d.year, d.month + 1, 1⟩
  else ⟨d.year + 1, 1, 1⟩

/-- The day so many days later. -/
def later (d : Date) : Nat → Date
  | 0 => d
  | days + 1 => (d.later days).next

/-- The day so many days later, if its year is in range. -/
def later? (d : Date) (days : Nat) : Option Date :=
  if Calendar.yearInRange (d.later days).year then some (d.later days) else none

end Date

/-! ## Instants -/

/-- A second of a day. -/
structure Instant where
  year : Int
  month : Nat
  day : Nat
  hour : Nat
  minute : Nat
  second : Nat
  deriving Repr, DecidableEq

namespace Instant

/-- The order of two instants: the first component in which they differ decides. -/
def compare (i j : Instant) : Ordering :=
  (Ord.compare i.year j.year).then <|
    (Ord.compare i.month j.month).then <|
      (Ord.compare i.day j.day).then <|
        (Ord.compare i.hour j.hour).then <|
          (Ord.compare i.minute j.minute).then (Ord.compare i.second j.second)

end Instant

/-- A time of the day, if a day has such a time. -/
def Date.at? (d : Date) (hour minute second : Nat) : Option Instant :=
  if hour < 24 && minute < 60 && second < 60 then
    some ⟨d.year, d.month, d.day, hour, minute, second⟩
  else none

end FormValidation
