/-!
# The calendar

Dates of the Gregorian calendar, extended without end in both directions, and
their numbering by days from 1970-01-01.

## Implementation notes

Years are integers, with a year 0 before the year 1. The year of a day is found
from the mean length of a year, corrected by one where the estimate misses; the
month is found by walking the month lengths.
-/

namespace RunnerRelease

/-- A year, a month from 1 to 12 and a day of the month from 1. -/
structure Date where
  year : Int
  month : Nat
  day : Nat
deriving DecidableEq, Repr

namespace Date

/-- A year is leap when divisible by 4, unless divisible by 100 and not by 400. -/
def isLeap (year : Int) : Bool :=
  year % 4 == 0 && (year % 100 != 0 || year % 400 == 0)

/-- The lengths of the months of a year. -/
def monthLengths (year : Int) : List Nat :=
  [31, if isLeap year then 29 else 28, 31, 30, 31, 30, 31, 31, 30, 31, 30, 31]

/-- A date exists when its month and its day of the month do. -/
def Exists (d : Date) : Prop :=
  1 ≤ d.month ∧ d.month ≤ 12 ∧ 1 ≤ d.day ∧ d.day ≤ (monthLengths d.year).getD (d.month - 1) 0

instance (d : Date) : Decidable d.Exists :=
  inferInstanceAs (Decidable (_ ∧ _ ∧ _ ∧ _))

/-- Days from 1 January of the year 0 to 1 January of the given year. -/
def daysBeforeYear (year : Int) : Int :=
  365 * year + (year + 3) / 4 - (year + 99) / 100 + (year + 399) / 400

/-- Days from 1 January of the year 0 to 1 January 1970. -/
def epochOffset : Int := 719528

/-- The length of consecutive parts together. -/
def total (lengths : List Nat) : Nat := lengths.foldr (· + ·) 0

/-- Days from 1970-01-01 to the date. -/
def toDayNumber (d : Date) : Int :=
  daysBeforeYear d.year + total ((monthLengths d.year).take (d.month - 1)) + (d.day - 1 : Nat)
    - epochOffset

/-- The year that holds the day with this distance from 1 January of the year 0. -/
def yearOfDay (day : Int) : Int :=
  let guess := 400 * day / 146097
  if day < daysBeforeYear guess then guess - 1
  else if daysBeforeYear (guess + 1) ≤ day then guess + 1
  else guess

/--
Walks the lengths of consecutive parts: the index of the part that holds the
given offset and the offset within that part.
-/
def locate : List Nat → Nat → Nat × Nat
  | [], offset => (0, offset)
  | length :: rest, offset =>
    if offset < length then (0, offset)
    else ((locate rest (offset - length)).1 + 1, (locate rest (offset - length)).2)

/-- The date with the given distance from 1970-01-01. -/
def ofDayNumber (number : Int) : Date :=
  let day := number + epochOffset
  let year := yearOfDay day
  let place := locate (monthLengths year) (day - daysBeforeYear year).toNat
  ⟨year, place.1 + 1, place.2 + 1⟩

end Date

end RunnerRelease
