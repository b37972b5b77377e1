import RunnerRelease.Time.Span
import RunnerRelease.Time.Calendar

/-!
# Instants

A moment of universal time: whole seconds since the start of 1970 and the
nanoseconds after them.

## Implementation notes

A leap second has no number of its own. It is the second `:59` before it with
nanoseconds of one second and more, so it sorts after all of `:59` and before the
next minute. Adding time leaves the leap second first; a difference counts it when
it lies between the two instants on the clock face.
-/

namespace RunnerRelease

/-- Seconds in a day without a leap second. -/
def secondsPerDay : Int := 86400

/-- A moment of universal time. -/
structure Instant where
  /-- Whole seconds since 1970-01-01T00:00:00Z. -/
  seconds : Int
  /-- Nanoseconds after them; one second or more within a leap second. -/
  nanos : Nat
  nanos_lt : nanos < 2000000000 := by omega
  /-- Only the last second of a minute can be followed by a leap second. -/
  leap_second : 1000000000 ≤ nanos → seconds % 60 = 59 := by omega
deriving DecidableEq

namespace Instant

/-- The start of a second. -/
def ofSeconds (seconds : Int) : Instant :=
  { seconds, nanos := 0 }

/-- The number of the day that holds the instant, counted from 1970-01-01. -/
def dayNumber (t : Instant) : Int := t.seconds / secondsPerDay

/-- The second of the day, not counting a leap second. -/
def secondOfDay (t : Instant) : Nat := (t.seconds % secondsPerDay).toNat

/-- Whether the instant lies in a leap second. -/
def isLeap (t : Instant) : Bool := 1000000000 ≤ t.nanos

/-- The date on which the instant lies. -/
def date (t : Instant) : Date := .ofDayNumber t.dayNumber

instance : LE Instant where
  le a b := a.seconds < b.seconds ∨ a.seconds = b.seconds ∧ a.nanos ≤ b.nanos

instance (a b : Instant) : Decidable (a ≤ b) :=
  inferInstanceAs (Decidable (_ ∨ _ ∧ _))

instance : LT Instant where
  lt a b := a.seconds < b.seconds ∨ a.seconds = b.seconds ∧ a.nanos < b.nanos

instance (a b : Instant) : Decidable (a < b) :=
  inferInstanceAs (Decidable (_ ∨ _ ∧ _))

/-- The instant without its fraction of a second; a leap second stays one. -/
def truncate (t : Instant) : Instant :=
  if h : 1000000000 ≤ t.nanos then
    { seconds := t.seconds, nanos := 1000000000, leap_second := fun _ => t.leap_second h }
  else { seconds := t.seconds, nanos := 0 }

/-- The longest time, in seconds, that can be added to an instant. -/
def longestStep : Nat := 9223372036854775

/-- The last day of the calendar, 31 December 262142. -/
def lastDay : Int := Date.toDayNumber ⟨262142, 12, 31⟩

/-- The instant so many seconds later, not counting a leap second that is left. -/
def later (t : Instant) (seconds : Nat) : Instant :=
  if seconds = 0 then t
  else { seconds := t.seconds + seconds, nanos := t.nanos % 1000000000 }

/--
The instant so many seconds later, if the time can be added and the calendar has
the day.
-/
def add? (t : Instant) (seconds : Nat) : Option Instant :=
  if longestStep < seconds then none
  else if lastDay < (t.later seconds).dayNumber then none
  else some (t.later seconds)

/-- Nanoseconds from the first instant to the second, negative when it is earlier. -/
def nanosUntil (start stop : Instant) : Int :=
  let leap : Int :=
    if start.secondOfDay < stop.secondOfDay then (if start.isLeap then 1 else 0)
    else if stop.secondOfDay < start.secondOfDay then (if stop.isLeap then -1 else 0)
    else 0
  (stop.seconds - start.seconds + leap) * 1000000000 + ((stop.nanos : Int) - start.nanos)

/-- The time from the first instant to the second, unless that is earlier. -/
def spanUntil? (start stop : Instant) : Option TimeSpan :=
  let nanos := start.nanosUntil stop
  if nanos < 0 then none
  else some (.ofNanos nanos.toNat)

end Instant

end RunnerRelease
