import RunnerRelease.Proofs.Release.GracePeriod

/-!
# Deadlines that move with the timeout

A pod that may go at some time may go at every later time and under every shorter timeout. Where
the timeout cannot be added to the beginning of the release, the pod is kept for ever, and so it
is under every longer timeout.

## Implementation notes

Both statements come down to `Instant.exists_add?_of_le`: a shorter time stays within the range of
times and of the calendar and ends no later, be the beginning a leap second or not. The delays of
the two policies need not agree.
-/

namespace RunnerRelease

variable {policy : Policy} {pod : Pod} {now : Instant} {text : String} {started : Instant}

/-- A pod may go exactly if it has stopped or its release has had its time. -/
theorem judge_retry_eq_none_iff :
    (judge policy pod now).retry policy = none ↔
      pod.isStopped policy.container = true ∨
        ∃ text started deadline, pod.annotated startMarker = some text ∧
          Rfc3339.parse text = .ok started ∧ policy.deadline? started = some deadline ∧
          deadline ≤ now := by
  constructor
  · exact judge_retry_eq_none
  · intro h
    by_cases hstopped : pod.isStopped policy.container = true
    · rw [judge, if_pos hstopped]
      rfl
    · obtain ⟨text, started, deadline, hmarker, hparse, hdeadline, hnow⟩ := h.resolve_left hstopped
      rw [judge_retry_of_started (by simpa using hstopped) hmarker hparse]
      rw [Policy.deadline?] at hdeadline
      rw [hdeadline]
      exact if_pos hnow

/-- A running pod whose deadline is out of range is kept at all times. -/
theorem judge_retry_of_deadline?_eq_none (hrunning : pod.isStopped policy.container = false)
    (hmarker : pod.annotated startMarker = some text) (hparse : Rfc3339.parse text = .ok started)
    (hdeadline : policy.deadline? started = none) (now : Instant) :
    (judge policy pod now).retry policy = some { after := policy.retrySpan } := by
  rw [Policy.deadline?] at hdeadline
  rw [judge_retry_of_started hrunning hmarker hparse, hdeadline]

/-- What is out of range for a timeout is out of range for a longer one. -/
theorem Policy.deadline?_eq_none_of_le {longer : Policy} (h : policy.timeout ≤ longer.timeout)
    (hnone : policy.deadline? started = none) : longer.deadline? started = none := by
  rw [Option.eq_none_iff_forall_ne_some]
  intro deadline hdeadline
  obtain ⟨earlier, hearlier, -⟩ :=
    Instant.exists_add?_of_le hdeadline (UInt64.le_iff_toNat_le.1 h)
  rw [deadline?, hearlier] at hnone
  cases hnone

/--
A pod that may go under a policy at some time may go at every later time and under every policy
with a shorter timeout and the same container. Where a timeout or the end of it is out of range,
a running pod is kept at all times, under this timeout and under every longer one.
-/
theorem release_monotone {shorter longer : Policy} (pod : Pod)
    (hcontainer : shorter.container = longer.container)
    (htimeout : shorter.timeout ≤ longer.timeout) :
    (∀ early late, early ≤ late → (judge longer pod early).retry longer = none →
        (judge shorter pod late).retry shorter = none) ∧
      ∀ text started, pod.isStopped shorter.container = false →
        pod.annotated startMarker = some text → Rfc3339.parse text = .ok started →
        (Instant.longestStep < shorter.timeout.toNat ∨
          Instant.lastDay < (started.later shorter.timeout.toNat).dayNumber) →
        ∀ now, (judge shorter pod now).retry shorter = some { after := shorter.retrySpan } ∧
          (judge longer pod now).retry longer = some { after := longer.retrySpan } := by
  constructor
  · intro early late hlate hrelease
    rw [judge_retry_eq_none_iff] at hrelease ⊢
    rcases hrelease with hstopped | ⟨text, started, deadline, hmarker, hparse, hdeadline, hearly⟩
    · left
      rw [hcontainer]
      exact hstopped
    · right
      obtain ⟨sooner, hsooner, hle⟩ :=
        Instant.exists_add?_of_le hdeadline (UInt64.le_iff_toNat_le.1 htimeout)
      refine ⟨text, started, sooner, hmarker, hparse, hsooner, ?_⟩
      exact Instant.le_trans hle (Instant.le_trans hearly hlate)
  · intro text started hrunning hmarker hparse hrange now
    have hnone : shorter.deadline? started = none := Instant.add?_eq_none_iff.2 hrange
    constructor
    · exact judge_retry_of_deadline?_eq_none hrunning hmarker hparse hnone now
    · rw [hcontainer] at hrunning
      exact judge_retry_of_deadline?_eq_none hrunning hmarker hparse
        (Policy.deadline?_eq_none_of_le htimeout hnone) now

/--
A release that began in the leap second at the end of 2016 is over two seconds later under a
timeout of a second, and so it is four seconds after that without a timeout. It is never over
under the longest timeout.
-/
theorem release_monotone_after_leap_second :
    let pod : Pod := { metadata := {
      annotations := some (.ofList [(startMarker, "2016-12-31T23:59:60.5Z")]) } }
    (judge { timeout := 0 } pod (.ofSeconds 1483228805)).retry { timeout := 0 } = none ∧
      ∀ now, (judge { timeout := 0xFFFFFFFFFFFFFFFF } pod now).retry
        { timeout := 0xFFFFFFFFFFFFFFFF } = some { after := .ofSeconds 30 } := by
  intro pod
  have hparse : Rfc3339.parse "2016-12-31T23:59:60.5Z" =
      .ok { seconds := 1483228799, nanos := 1500000000 } := by decide +kernel
  constructor
  · have hsooner := (@release_monotone { timeout := 0 } { timeout := 1 } pod rfl (by decide)).1
    apply hsooner (.ofSeconds 1483228801)
    · decide
    · decide +kernel
  · intro now
    have hnever := (@release_monotone { timeout := 0xFFFFFFFFFFFFFFFF }
      { timeout := 0xFFFFFFFFFFFFFFFF } pod rfl (by decide)).2
    exact (hnever _ _ (by decide +kernel) (by decide +kernel) hparse (.inl (by decide)) now).1

end RunnerRelease
