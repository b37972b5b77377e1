import RunnerRelease.Text.Decimal

/-!
# Spans of time

A span is a whole number of seconds below 2⁶⁴ and a number of nanoseconds below
one second.

## Implementation notes

Both bounds are part of the type, so no operation can leave the range: doubling
saturates at the longest span, which is longer than every span of whole seconds.
-/

namespace RunnerRelease

/-- Nanoseconds in a second. -/
def nanosPerSecond : Nat := 1000000000

/-- A length of time in seconds and nanoseconds. -/
structure TimeSpan where
  secs : UInt64
  nanos : Fin 1000000000
deriving DecidableEq, Repr

namespace TimeSpan

/-- The empty span. -/
def zero : TimeSpan := ⟨0, 0⟩

/-- The longest span. -/
def longest : TimeSpan := ⟨0xFFFFFFFFFFFFFFFF, 999999999⟩

/-- A span of whole seconds. -/
def ofSeconds (secs : UInt64) : TimeSpan := ⟨secs, 0⟩

/-- The span of so many nanoseconds, if it is not too long for one. -/
def ofNanos (nanos : Nat) : TimeSpan :=
  ⟨UInt64.ofNat (nanos / nanosPerSecond), Fin.ofNat 1000000000 nanos⟩

/-- The length of a span in nanoseconds. -/
def toNanos (s : TimeSpan) : Nat := s.secs.toNat * nanosPerSecond + s.nanos.val

instance : LE TimeSpan where
  le a b := a.secs < b.secs ∨ a.secs = b.secs ∧ a.nanos ≤ b.nanos

instance : LT TimeSpan where
  lt a b := a.secs < b.secs ∨ a.secs = b.secs ∧ a.nanos < b.nanos

instance (a b : TimeSpan) : Decidable (a ≤ b) :=
  inferInstanceAs (Decidable (a.secs < b.secs ∨ a.secs = b.secs ∧ a.nanos ≤ b.nanos))

instance (a b : TimeSpan) : Decidable (a < b) :=
  inferInstanceAs (Decidable (a.secs < b.secs ∨ a.secs = b.secs ∧ a.nanos < b.nanos))

instance : Max TimeSpan where
  max a b := if a ≤ b then b else a

/-- Twice the span, or the longest span where that is out of range. -/
def double (s : TimeSpan) : TimeSpan :=
  if longest.toNanos < 2 * s.toNanos then longest else .ofNanos (2 * s.toNanos)

/-- A whole number with a fraction of so many digits, zeros at the end left out. -/
def decimal (whole fraction digits : Nat) : String :=
  let shown := ((Text.fixedDigits digits fraction).reverse.dropWhile (· == '0')).reverse
  if shown.isEmpty then toString whole else s!"{whole}." ++ .ofList shown

/--
The span in the largest of the units second, millisecond, microsecond and
nanosecond in which its whole part is not zero.
-/
def render (s : TimeSpan) : String :=
  if s.secs != 0 then decimal s.secs.toNat s.nanos.val 9 ++ "s"
  else if 1000000 ≤ s.nanos.val then
    decimal (s.nanos.val / 1000000) (s.nanos.val % 1000000) 6 ++ "ms"
  else if 1000 ≤ s.nanos.val then
    decimal (s.nanos.val / 1000) (s.nanos.val % 1000) 3 ++ "µs"
  else toString s.nanos.val ++ "ns"

end TimeSpan

end RunnerRelease
