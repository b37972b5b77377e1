import RunnerRelease.Time.Span

/-!
# The lengths of spans

Spans are compared by their lengths in nanoseconds, and the operations on spans are those on
their lengths, up to the longest span.
-/

namespace RunnerRelease.TimeSpan

theorem toNanos_ofSeconds (secs : UInt64) :
    (ofSeconds secs).toNanos = secs.toNat * nanosPerSecond := by
  simp [ofSeconds, toNanos]

theorem toNanos_longest :
    longest.toNanos = 18446744073709551615 * nanosPerSecond + 999999999 := by
  simp only [longest, toNanos]
  rfl

/-- No span is longer than the longest one. -/
theorem toNanos_le_toNanos_longest (s : TimeSpan) : s.toNanos ≤ longest.toNanos := by
  have hsecs := s.secs.toNat_lt
  have hnanos := s.nanos.isLt
  rw [toNanos_longest, toNanos, nanosPerSecond]
  omega

/-- Spans of one length are the same. -/
theorem eq_of_toNanos_eq {a b : TimeSpan} (h : a.toNanos = b.toNanos) : a = b := by
  have ha := a.nanos.isLt
  have hb := b.nanos.isLt
  obtain ⟨secs, nanos⟩ := a
  obtain ⟨secs', nanos'⟩ := b
  simp only [toNanos, nanosPerSecond] at h ha hb
  rw [mk.injEq, ← UInt64.toNat_inj, ← Fin.val_inj]
  omega

theorem lt_iff_toNanos_lt (a b : TimeSpan) : a < b ↔ a.toNanos < b.toNanos := by
  have ha := a.nanos.isLt
  have hb := b.nanos.isLt
  change a.secs < b.secs ∨ a.secs = b.secs ∧ a.nanos < b.nanos ↔ _
  rw [UInt64.lt_iff_toNat_lt, ← UInt64.toNat_inj, Fin.lt_def, toNanos, toNanos, nanosPerSecond]
  omega

theorem le_iff_toNanos_le (a b : TimeSpan) : a ≤ b ↔ a.toNanos ≤ b.toNanos := by
  have ha := a.nanos.isLt
  have hb := b.nanos.isLt
  change a.secs < b.secs ∨ a.secs = b.secs ∧ a.nanos ≤ b.nanos ↔ _
  rw [UInt64.lt_iff_toNat_lt, ← UInt64.toNat_inj, Fin.le_def, toNanos, toNanos, nanosPerSecond]
  omega

theorem toNanos_max (a b : TimeSpan) : (max a b).toNanos = max a.toNanos b.toNanos := by
  change (if a ≤ b then b else a).toNanos = _
  by_cases h : a ≤ b
  · rw [if_pos h]
    exact (Nat.max_eq_right ((le_iff_toNanos_le a b).1 h)).symm
  · rw [if_neg h]
    rw [le_iff_toNanos_le] at h
    exact (Nat.max_eq_left (by omega)).symm

/-- A number of nanoseconds that fits into a span is the length of one. -/
theorem toNanos_ofNanos {nanos : Nat} (h : nanos ≤ longest.toNanos) :
    (ofNanos nanos).toNanos = nanos := by
  rw [toNanos_longest, nanosPerSecond] at h
  have hsecs : (UInt64.ofNat (nanos / nanosPerSecond)).toNat = nanos / nanosPerSecond := by
    apply UInt64.toNat_ofNat_of_lt'
    rw [nanosPerSecond, UInt64.size]
    omega
  rw [toNanos, ofNanos, hsecs, Fin.val_ofNat, nanosPerSecond]
  omega

/-- Doubling a span doubles its length, up to the longest span. -/
theorem toNanos_double (s : TimeSpan) : s.double.toNanos = min longest.toNanos (2 * s.toNanos) := by
  rw [double]
  split
  · omega
  · rw [toNanos_ofNanos (by omega)]
    omega

end RunnerRelease.TimeSpan
