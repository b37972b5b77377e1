import RunnerRelease.Text.Utf8
import RunnerRelease.Text.Decimal
import RunnerRelease.Time.Instant

/-!
# Timestamps

Reading and writing of instants in the format of RFC 3339, the format of the
progress markers.

## Implementation notes

The reader goes through the text once from left to right, and the first thing
wrong names the fault. The fields are checked for their range at fixed places: the
date as soon as it is complete, the time of day after its fraction, the offset
last. Written timestamps have whole seconds and end in `Z`; years that do not have
four digits are written with a sign, which the reader refuses.
-/

namespace RunnerRelease.Rfc3339

open Text

/-- What is wrong with a timestamp. -/
inductive Fault where
  /-- The text ends before the timestamp does. -/
  | premature
  /-- A character stands where the format has no place for it. -/
  | invalid
  /-- A field has a value that no calendar or clock shows. -/
  | outOfRange
  /-- The text goes on after the timestamp. -/
  | trailing
deriving DecidableEq, Repr

/-- The wording of a fault. -/
def Fault.message : Fault → String
  | .premature => "premature end of input"
  | .invalid => "input contains invalid characters"
  | .outOfRange => "input is out of range"
  | .trailing => "trailing input"

/-- Reads exactly so many digits, after a value already read. -/
def number : Nat → Nat → List Char → Except Fault (Nat × List Char)
  | 0, value, cs => .ok (value, cs)
  | _ + 1, _, [] => .error .premature
  | count + 1, value, c :: cs =>
    match digit? c with
    | none => .error .invalid
    | some d => number count (value * 10 + d) cs

/-- Reads one character out of the given ones. -/
def oneOf (choices : List Char) : List Char → Except Fault (List Char)
  | [] => .error .premature
  | c :: cs => if choices.contains c then .ok cs else .error .invalid

/-- Reads a year, a month and a day that make up a date. -/
def date (cs : List Char) : Except Fault (Date × List Char) := do
  let (year, cs) ← number 4 0 cs
  let cs ← oneOf ['-'] cs
  let (month, cs) ← number 2 0 cs
  let cs ← oneOf ['-'] cs
  let (day, cs) ← number 2 0 cs
  let date : Date := ⟨year, month, day⟩
  if date.Exists then return (date, cs) else throw .outOfRange

/-- Reads the digits of a fraction of a second; those after the ninth do not count. -/
def fractionDigits : Nat → List Char → Nat × List Char
  | _, [] => (0, [])
  | unit, c :: cs =>
    match digit? c with
    | none => (0, c :: cs)
    | some d => (d * unit + (fractionDigits (unit / 10) cs).1, (fractionDigits (unit / 10) cs).2)

/-- Reads a fraction of a second in nanoseconds, if there is one. -/
def fraction : List Char → Except Fault (Nat × List Char)
  | ['.'] => .error .premature
  | '.' :: c :: cs =>
    if (digit? c).isSome then .ok (fractionDigits 100000000 (c :: cs)) else .error .invalid
  | cs => .ok (0, cs)

/-- An hour, a minute, a second and nanoseconds as they are spelled. -/
structure ClockTime where
  hour : Nat
  minute : Nat
  second : Nat
  nanos : Nat
deriving DecidableEq, Repr

/-- Reads the time of day. -/
def clockTime (cs : List Char) : Except Fault (ClockTime × List Char) := do
  let (hour, cs) ← number 2 0 cs
  let cs ← oneOf [':'] cs
  let (minute, cs) ← number 2 0 cs
  let cs ← oneOf [':'] cs
  let (second, cs) ← number 2 0 cs
  let (nanos, cs) ← fraction cs
  if hour ≤ 23 ∧ minute ≤ 59 ∧ second ≤ 60 then return (⟨hour, minute, second, nanos⟩, cs)
  else throw .outOfRange

/-- Reads two digits of an offset, which is too short with fewer than two bytes left. -/
def offsetPart (cs : List Char) : Except Fault (Nat × List Char) :=
  if utf8Length cs < 2 then .error .premature
  else match number 2 0 cs with
    | .error _ => .error .invalid
    | .ok result => .ok result

/-- Reads the offset from universal time, in minutes. -/
def offset : List Char → Except Fault (Int × List Char)
  | [] => .error .premature
  | c :: cs =>
    if c = 'Z' ∨ c = 'z' then .ok (0, cs)
    else if c = '+' ∨ c = '-' ∨ c = '−' then do
      let (hours, cs) ← offsetPart cs
      let cs ← oneOf [':'] cs
      let (minutes, cs) ← offsetPart cs
      if minutes ≤ 59 then
        let size : Int := hours * 60 + minutes
        return (if c = '+' then size else -size, cs)
      else throw .outOfRange
    else .error .invalid

/--
The instant at which a clock with the given offset in minutes shows a date and a
time of day; second 60 is the leap second after second 59.
-/
def instant (date : Date) (time : ClockTime) (offset : Int) : Instant :=
  let seconds := date.toDayNumber * 86400 + time.hour * 3600 + time.minute * 60 - 60 * offset
  if time.second = 60 then
    { seconds := seconds + 59
      nanos := 1000000000 + time.nanos % 1000000000
      leap_second := fun _ => by omega }
  else
    { seconds := seconds + time.second
      nanos := time.nanos % 1000000000 }

/-- The instant that a timestamp denotes. -/
def parse (s : String) : Except Fault Instant := do
  let cs := s.toList
  if utf8Length cs < 19 then throw .premature
  let (date, cs) ← date cs
  let cs ← oneOf ['T', 't', ' '] cs
  let (time, cs) ← clockTime cs
  let (offset, cs) ← offset cs
  if !cs.isEmpty then throw .trailing
  if -1440 < offset ∧ offset < 1440 then return instant date time offset
  else throw .outOfRange

/-- The digits of a year: four, or a sign and at least four. -/
def yearChars (year : Int) : List Char :=
  if 0 ≤ year ∧ year ≤ 9999 then fixedDigits 4 year.toNat
  else (if year < 0 then '-' else '+') :: paddedDigits 4 year.natAbs

/-- The characters of the timestamp with the whole seconds of an instant, in universal time. -/
def chars (t : Instant) : List Char :=
  let date := t.date
  let second := t.secondOfDay
  yearChars date.year ++ '-' :: fixedDigits 2 date.month ++ '-' :: fixedDigits 2 date.day
    ++ 'T' :: fixedDigits 2 (second / 3600) ++ ':' :: fixedDigits 2 (second / 60 % 60)
    ++ ':' :: fixedDigits 2 (second % 60 + if t.isLeap then 1 else 0) ++ ['Z']

/-- The timestamp with the whole seconds of an instant, in universal time. -/
def render (t : Instant) : String := .ofList (chars t)

end RunnerRelease.Rfc3339
