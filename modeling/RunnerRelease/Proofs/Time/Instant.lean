import RunnerRelease.Time.Instant

/-!
# The order of instants

Instants are ordered by their seconds, then by their nanoseconds. The order is total, and an
instant to which a second or more has been added is a later one. The more is added the later it
is, up to the end of the range, beyond which there is nothing.
-/

namespace RunnerRelease.Instant

theorem not_le {a b : Instant} : ¬ a ≤ b ↔ b < a := by
  change ¬ (a.seconds < b.seconds ∨ a.seconds = b.seconds ∧ a.nanos ≤ b.nanos) ↔
    b.seconds < a.seconds ∨ b.seconds = a.seconds ∧ b.nanos < a.nanos
  omega

theorem le_trans {a b c : Instant} (hab : a ≤ b) (hbc : b ≤ c) : a ≤ c := by
  change a.seconds < b.seconds ∨ a.seconds = b.seconds ∧ a.nanos ≤ b.nanos at hab
  change b.seconds < c.seconds ∨ b.seconds = c.seconds ∧ b.nanos ≤ c.nanos at hbc
  change a.seconds < c.seconds ∨ a.seconds = c.seconds ∧ a.nanos ≤ c.nanos
  omega

@[simp] theorem seconds_later (t : Instant) (seconds : Nat) :
    (t.later seconds).seconds = t.seconds + seconds := by
  rw [later]
  split
  · rename_i hzero
    rw [hzero, Int.natCast_zero, Int.add_zero]
  · rfl

/-- A longer time leads to a later instant, also where a leap second is left by it. -/
theorem later_le_later (t : Instant) {short long : Nat} (h : short ≤ long) :
    t.later short ≤ t.later long := by
  rcases Nat.lt_or_eq_of_le h with hlt | rfl
  · left
    rw [seconds_later, seconds_later]
    omega
  · right
    exact ⟨rfl, Nat.le_refl _⟩

theorem dayNumber_le_dayNumber {a b : Instant} (h : a ≤ b) : a.dayNumber ≤ b.dayNumber := by
  have hseconds : a.seconds ≤ b.seconds := by
    rcases h with hlt | ⟨heq, -⟩
    · exact Int.le_of_lt hlt
    · exact Int.le_of_eq heq
  exact Int.ediv_le_ediv (by decide) hseconds

/-- An instant has a later one exactly within the range of times and of the calendar. -/
theorem add?_eq_some_iff {t deadline : Instant} {seconds : Nat} :
    t.add? seconds = some deadline ↔
      seconds ≤ longestStep ∧ (t.later seconds).dayNumber ≤ lastDay ∧
        t.later seconds = deadline := by
  rw [add?]
  split
  · rename_i hlong
    simp [Nat.not_le.2 hlong]
  · rename_i hshort
    split
    · rename_i hlate
      simp [Int.not_le.2 hlate]
    · rename_i hearly
      simp [Nat.not_lt.1 hshort, Int.not_lt.1 hearly]

theorem add?_eq_none_iff {t : Instant} {seconds : Nat} :
    t.add? seconds = none ↔
      longestStep < seconds ∨ lastDay < (t.later seconds).dayNumber := by
  rw [add?]
  split
  · rename_i hlong
    simp [hlong]
  · rename_i hshort
    simp [hshort]

/-- A deadline that is at least one second later has not been reached. -/
theorem lt_of_add?_truncate {t deadline : Instant} {seconds : Nat}
    (h : t.truncate.add? seconds = some deadline) (hpositive : 1 ≤ seconds) : t < deadline := by
  have htruncate : t.truncate.seconds = t.seconds := by
    rw [truncate]
    split <;> rfl
  obtain ⟨-, -, rfl⟩ := add?_eq_some_iff.1 h
  left
  rw [seconds_later, htruncate]
  omega

/-- A shorter time stays in range and ends no later. -/
theorem exists_add?_of_le {t deadline : Instant} {short long : Nat}
    (h : t.add? long = some deadline) (hle : short ≤ long) :
    ∃ earlier, t.add? short = some earlier ∧ earlier ≤ deadline := by
  obtain ⟨hstep, hday, rfl⟩ := add?_eq_some_iff.1 h
  have horder := t.later_le_later hle
  refine ⟨t.later short, add?_eq_some_iff.2 ⟨?_, ?_, rfl⟩, horder⟩
  · exact Nat.le_trans hle hstep
  · exact Int.le_trans (dayNumber_le_dayNumber horder) hday

end RunnerRelease.Instant
