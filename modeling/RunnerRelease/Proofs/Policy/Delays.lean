import Mathlib.Algebra.Group.Nat.Defs
import Mathlib.Order.Bounds.Defs
import RunnerRelease.Policy.Basic
import RunnerRelease.Proofs.Time.Span

/-!
# The delays of a policy

The delay after a rate limit is the greatest of three spans: the one that is asked for, twice the
usual delay and one second. It is longer than the usual delay, whatever the policy says. Twice
the longest whole number of seconds is out of range; the longest span takes its place, and is
longer by its nanoseconds alone.

## Implementation notes

A span is doubled in words of 64 bits, and a product or a sum of words is wrong where it does not
fit. `doubleInWords?` goes through those words one by one. That it agrees with `double`, which
is a matter of lengths, says that none of them wraps around unnoticed.
-/

namespace RunnerRelease

/-- The product of two words, absent when it does not fit. -/
def mulWord? (a b : UInt64) : Option UInt64 :=
  if a.toNat * b.toNat < UInt64.size then some (a * b) else none

/-- The sum of two words, absent when it does not fit. -/
def addWord? (a b : UInt64) : Option UInt64 :=
  if a.toNat + b.toNat < UInt64.size then some (a + b) else none

theorem mulWord?_eq_some_iff {a b c : UInt64} :
    mulWord? a b = some c ↔ c.toNat = a.toNat * b.toNat := by
  rw [mulWord?]
  split
  · rename_i hfits
    rw [Option.some.injEq, ← UInt64.toNat_inj, UInt64.toNat_mul, Nat.mod_eq_of_lt hfits, eq_comm]
  · rename_i hlarge
    have hbound := c.toNat_lt_size
    simp only [reduceCtorEq, false_iff]
    omega

theorem addWord?_eq_some_iff {a b c : UInt64} :
    addWord? a b = some c ↔ c.toNat = a.toNat + b.toNat := by
  rw [addWord?]
  split
  · rename_i hfits
    rw [Option.some.injEq, ← UInt64.toNat_inj, UInt64.toNat_add, Nat.mod_eq_of_lt hfits, eq_comm]
  · rename_i hlarge
    have hbound := c.toNat_lt_size
    simp only [reduceCtorEq, false_iff]
    omega

namespace TimeSpan

/-- Twice the seconds of a span and those that its doubled nanoseconds make up, if they fit. -/
def doubleSecs? (s : TimeSpan) (carry : UInt64) : Option UInt64 := do
  addWord? (← mulWord? s.secs 2) carry

/--
Doubles a span word by word; where the seconds do not fit, the longest span takes its place.
Nothing guards the doubled nanoseconds, and the result is absent if they do not fit.
-/
def doubleInWords? (s : TimeSpan) : Option TimeSpan := do
  let nanos ← mulWord? (UInt64.ofNat s.nanos.val) 2
  match s.doubleSecs? (nanos / 1000000000) with
  | some secs => return ⟨secs, nanos.toNat % 1000000000, Nat.mod_lt _ (by decide)⟩
  | none => return longest

variable {s : TimeSpan}

theorem doubleSecs?_eq_some_iff {carry secs : UInt64} :
    s.doubleSecs? carry = some secs ↔ secs.toNat = 2 * s.secs.toNat + carry.toNat := by
  have htwice {product : UInt64} :
      mulWord? s.secs 2 = some product ↔ product.toNat = 2 * s.secs.toNat := by
    rw [mulWord?_eq_some_iff, UInt64.toNat_ofNat, Nat.mul_comm]
  simp only [doubleSecs?, Option.bind_eq_bind, Option.bind_eq_some_iff, htwice,
    addWord?_eq_some_iff]
  constructor
  · rintro ⟨product, hproduct, hsum⟩
    rw [hsum, hproduct]
  · intro hsum
    have hbound := secs.toNat_lt_size
    refine ⟨UInt64.ofNat (2 * s.secs.toNat), ?_, ?_⟩
    · exact UInt64.toNat_ofNat_of_lt' (by omega)
    · rw [UInt64.toNat_ofNat_of_lt' (by omega), hsum]

/-- The doubled nanoseconds always fit. -/
theorem exists_mulWord?_nanos (s : TimeSpan) : ∃ nanos,
    mulWord? (UInt64.ofNat s.nanos.val) 2 = some nanos ∧ nanos.toNat = 2 * s.nanos.val := by
  have hnanos := s.nanos.isLt
  have htwice : (UInt64.ofNat (2 * s.nanos.val)).toNat = 2 * s.nanos.val :=
    UInt64.toNat_ofNat_of_lt' (by rw [UInt64.size]; omega)
  refine ⟨UInt64.ofNat (2 * s.nanos.val), ?_, htwice⟩
  rw [mulWord?_eq_some_iff, htwice, UInt64.toNat_ofNat_of_lt' (by rw [UInt64.size]; omega),
    UInt64.toNat_ofNat, Nat.mul_comm]

/-- The seconds do not fit exactly where twice the length is more than a span can have. -/
theorem doubleSecs?_eq_none {carry : UInt64} (h : s.doubleSecs? carry = none)
    (hcarry : carry.toNat = 2 * s.nanos.val / 1000000000) :
    longest.toNanos < 2 * s.toNanos := by
  refine Nat.lt_of_not_le fun hfits => ?_
  rw [toNanos_longest, toNanos, nanosPerSecond] at hfits
  have hsum : (UInt64.ofNat (2 * s.secs.toNat + carry.toNat)).toNat =
      2 * s.secs.toNat + carry.toNat :=
    UInt64.toNat_ofNat_of_lt' (by rw [UInt64.size]; omega)
  rw [← doubleSecs?_eq_some_iff, h] at hsum
  cases hsum

/-- A span is doubled without that any word wraps around. -/
theorem doubleInWords?_eq (s : TimeSpan) : s.doubleInWords? = some s.double := by
  obtain ⟨nanos, hproduct, hnanos⟩ := s.exists_mulWord?_nanos
  have hcarry : (nanos / 1000000000).toNat = 2 * s.nanos.val / 1000000000 := by
    rw [UInt64.toNat_div, hnanos]
    rfl
  simp only [doubleInWords?, hproduct, Option.bind_eq_bind, Option.bind_some]
  cases hsecs : s.doubleSecs? (nanos / 1000000000) with
  | some secs =>
      rw [doubleSecs?_eq_some_iff, hcarry] at hsecs
      have hbound := secs.toNat_lt_size
      refine congrArg some (eq_of_toNanos_eq ?_)
      rw [toNanos_double, toNanos_longest, toNanos, toNanos, hsecs]
      simp only [nanosPerSecond, UInt64.size] at hbound ⊢
      omega
  | none =>
      rw [double, if_pos (doubleSecs?_eq_none hsecs hcarry)]
      rfl

end TimeSpan

namespace Policy

variable (policy : Policy)

theorem toNanos_retrySpan : policy.retrySpan.toNanos = policy.retryDelay.toNat * nanosPerSecond :=
  TimeSpan.toNanos_ofSeconds _

theorem toNanos_rateLimitSpan :
    policy.rateLimitSpan.toNanos =
      max (TimeSpan.ofSeconds policy.rateLimitDelay).toNanos
        (max policy.retrySpan.double.toNanos (TimeSpan.ofSeconds 1).toNanos) := by
  rw [rateLimitSpan, TimeSpan.toNanos_max, TimeSpan.toNanos_max]

/-- The delay after a rate limit is one of three spans, and none of them is longer. -/
theorem rateLimitSpan_isGreatest :
    IsGreatest {.ofSeconds policy.rateLimitDelay, policy.retrySpan.double, .ofSeconds 1}
      policy.rateLimitSpan := by
  have hlength := policy.toNanos_rateLimitSpan
  constructor
  · have hone : policy.rateLimitSpan.toNanos = (TimeSpan.ofSeconds policy.rateLimitDelay).toNanos ∨
        policy.rateLimitSpan.toNanos = policy.retrySpan.double.toNanos ∨
        policy.rateLimitSpan.toNanos = (TimeSpan.ofSeconds 1).toNanos := by
      omega
    rcases hone with h | h | h
    · exact .inl (TimeSpan.eq_of_toNanos_eq h)
    · exact .inr (.inl (TimeSpan.eq_of_toNanos_eq h))
    · exact .inr (.inr (TimeSpan.eq_of_toNanos_eq h))
  · rintro span (rfl | rfl | rfl)
    all_goals
      rw [TimeSpan.le_iff_toNanos_le]
      omega

/-- Twice the usual delay, if it is the length of a span, is no longer than that. -/
theorem le_rateLimitSpan_of_twice {twice : TimeSpan}
    (h : twice.toNanos = 2 * policy.retrySpan.toNanos) : twice ≤ policy.rateLimitSpan := by
  have hbound := twice.toNanos_le_toNanos_longest
  have hdouble : twice = policy.retrySpan.double := by
    apply TimeSpan.eq_of_toNanos_eq
    rw [TimeSpan.toNanos_double, ← h, Nat.min_eq_right hbound]
  rw [hdouble]
  exact policy.rateLimitSpan_isGreatest.2 (.inr (.inl rfl))

/-- Twice 2⁶³ seconds and more is out of range, and the delay after a rate limit the longest. -/
theorem rateLimitSpan_of_le (h : 2 ^ 63 ≤ policy.retryDelay.toNat) :
    policy.rateLimitSpan = .longest := by
  have hbound := policy.rateLimitSpan.toNanos_le_toNanos_longest
  have hdouble : policy.retrySpan.double.toNanos = TimeSpan.longest.toNanos := by
    rw [TimeSpan.toNanos_double, toNanos_retrySpan, TimeSpan.toNanos_longest, nanosPerSecond]
    omega
  apply TimeSpan.eq_of_toNanos_eq
  rw [toNanos_rateLimitSpan, hdouble] at hbound ⊢
  omega

/-- The delay after a rate limit is longer than the usual one, whatever the policy says. -/
theorem retrySpan_lt_rateLimitSpan : policy.retrySpan < policy.rateLimitSpan := by
  have hretry := policy.toNanos_retrySpan
  have hdouble : policy.retrySpan.double.toNanos ≤ policy.rateLimitSpan.toNanos := by
    rw [← TimeSpan.le_iff_toNanos_le]
    exact policy.rateLimitSpan_isGreatest.2 (.inr (.inl rfl))
  have hsecond : (TimeSpan.ofSeconds 1).toNanos ≤ policy.rateLimitSpan.toNanos := by
    rw [← TimeSpan.le_iff_toNanos_le]
    exact policy.rateLimitSpan_isGreatest.2 (.inr (.inr rfl))
  have hbound := policy.retryDelay.toNat_lt
  rw [TimeSpan.lt_iff_toNanos_lt]
  by_cases hzero : policy.retryDelay.toNat = 0
  · calc
      policy.retrySpan.toNanos = 0 := by rw [hretry, hzero, Nat.zero_mul]
      _ < (TimeSpan.ofSeconds 1).toNanos := by simp [TimeSpan.toNanos_ofSeconds, nanosPerSecond]
      _ ≤ policy.rateLimitSpan.toNanos := hsecond
  · calc
      policy.retrySpan.toNanos < min TimeSpan.longest.toNanos (2 * policy.retrySpan.toNanos) := by
        rw [Nat.lt_min, TimeSpan.toNanos_longest, hretry, nanosPerSecond]
        omega
      _ = policy.retrySpan.double.toNanos := (TimeSpan.toNanos_double _).symm
      _ ≤ policy.rateLimitSpan.toNanos := hdouble

theorem rateLimitSpan_ne_zero : policy.rateLimitSpan ≠ .zero := by
  intro hzero
  have hlt := policy.retrySpan_lt_rateLimitSpan
  rw [hzero, TimeSpan.lt_iff_toNanos_lt] at hlt
  simp [TimeSpan.zero, TimeSpan.toNanos] at hlt

/--
The delay after a rate limit is longer than the usual one. It is the greatest of the delay that is
asked for, twice the usual delay and one second. Doubling lets no word wrap around: it gives twice
the length where a span can have that, and the longest span elsewhere. From 2⁶³ seconds on the
delay is the longest span, which the last number of seconds falls short of by nanoseconds only.
-/
theorem rateLimitSpan_dominates (policy : Policy) :
    policy.retrySpan < policy.rateLimitSpan ∧
      IsGreatest {.ofSeconds policy.rateLimitDelay, policy.retrySpan.double, .ofSeconds 1}
        policy.rateLimitSpan ∧
      policy.retrySpan.doubleInWords? = some policy.retrySpan.double ∧
      policy.retrySpan.double.toNanos =
        min TimeSpan.longest.toNanos (2 * policy.retrySpan.toNanos) ∧
      (∀ twice : TimeSpan, twice.toNanos = 2 * policy.retrySpan.toNanos →
        twice ≤ policy.rateLimitSpan) ∧
      (2 ^ 63 ≤ policy.retryDelay.toNat → policy.rateLimitSpan = .longest) ∧
      (policy.retryDelay.toNat = 2 ^ 64 - 1 →
        policy.rateLimitSpan.secs = policy.retrySpan.secs ∧
          policy.retrySpan.nanos < policy.rateLimitSpan.nanos) := by
  refine ⟨policy.retrySpan_lt_rateLimitSpan, policy.rateLimitSpan_isGreatest,
    policy.retrySpan.doubleInWords?_eq, policy.retrySpan.toNanos_double, ?_,
    policy.rateLimitSpan_of_le, ?_⟩
  · intro twice htwice
    exact policy.le_rateLimitSpan_of_twice htwice
  · intro hlast
    rw [policy.rateLimitSpan_of_le (by omega)]
    constructor
    · rw [← UInt64.toNat_inj]
      exact hlast.symm
    · exact (by decide : (0 : Fin 1000000000) < 999999999)

/-- After the last number of seconds the delay is longer by its nanoseconds only. -/
theorem rateLimitSpan_dominates_last_delay :
    let policy : Policy := { retryDelay := 0xFFFFFFFFFFFFFFFF, rateLimitDelay := 1 }
    policy.retrySpan < policy.rateLimitSpan ∧ policy.rateLimitSpan = .longest ∧
      policy.rateLimitSpan.secs = policy.retrySpan.secs := by
  intro policy
  obtain ⟨hlonger, -, -, -, -, hlongest, hlast⟩ := rateLimitSpan_dominates policy
  exact ⟨hlonger, hlongest (by decide), (hlast (by decide)).1⟩

end Policy

end RunnerRelease
