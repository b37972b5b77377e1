import RunnerRelease.Proofs.Pod.Marker
import RunnerRelease.Proofs.Release.Evidence
import RunnerRelease.Proofs.Time.Rfc3339

/-!
# The spelling of a marker

The start marker of a pod may have been written with local clocks. A decision depends on the
instant that the marker denotes, so it is the same for every offset, separator and number of
digits with which that instant is spelled.

## Implementation notes

A spelling is read as the second and the nanoseconds that it spells, whatever its zone. The year
that local clocks show may be the one before or after that of universal time, which is why the
first and the last of the years with four digits are left out.
-/

namespace RunnerRelease

open Pod

variable {policy : Policy} {here there : Pod} {now : Instant} {text other : String}
  {started : Instant}

/-- Two markers that denote one instant lead to one judgement. -/
theorem judge_eq_of_parse
    (hstopped : here.isStopped policy.container = there.isStopped policy.container)
    (hhere : here.annotated startMarker = some text)
    (hthere : there.annotated startMarker = some other)
    (htext : Rfc3339.parse text = .ok started) (hother : Rfc3339.parse other = .ok started) :
    judge policy here now = judge policy there now := by
  rw [judge, judge, hstopped, hhere, hthere]
  simp only [htext, hother]

/--
A second of a year from 1 to 9998 can be spelled with any offset of less than a day from
universal time or in universal time itself, with any of the separators and with a fraction of any
number of digits. Two spellings whose fractions agree in their first nine digits are read as the
same instant. Under every policy and at every time a pod with either text as its start marker
gets the same advice, and the decision to release it takes the same course.
-/
theorem decision_eq_of_spellings {t : Instant} (hyear : 1 ≤ t.date.year ∧ t.date.year ≤ 9998)
    (one two : Rfc3339.Spelling) (hnanos : one.nanos = two.nanos) :
    Rfc3339.parse (one.text t) = .ok (t.within one.nanos) ∧
      Rfc3339.parse (two.text t) = .ok (t.within one.nanos) ∧
      ∀ (policy : Policy) (pod : Pod) (now : Instant),
        (judge policy (pod.annotate startMarker (one.text t)) now).retry policy =
          (judge policy (pod.annotate startMarker (two.text t)) now).retry policy ∧
        ∀ scope runner,
          decideRelease policy scope runner (some (pod.annotate startMarker (one.text t))) now =
            decideRelease policy scope runner (some (pod.annotate startMarker (two.text t))) now := by
  have hone := Rfc3339.parse_text_of_year one hyear
  have htwo := Rfc3339.parse_text_of_year two hyear
  rw [← hnanos] at htwo
  refine ⟨hone, htwo, ?_⟩
  intro policy pod now
  have hmarked (text : String) :
      (pod.annotate startMarker text).annotated startMarker = some text := by
    rw [annotated_annotate, if_pos rfl]
  have hcomplete (text : String) :
      (pod.annotate startMarker text).annotated completeMarker = pod.annotated completeMarker := by
    rw [annotated_annotate, if_neg (by decide)]
  have hjudge : judge policy (pod.annotate startMarker (one.text t)) now =
      judge policy (pod.annotate startMarker (two.text t)) now := by
    apply judge_eq_of_parse _ (hmarked (one.text t)) (hmarked (two.text t)) hone htwo
    rfl
  constructor
  · rw [hjudge]
  · intro scope runner
    apply decideRelease_eq_of_judge _ hjudge
    rw [hcomplete, hcomplete]

namespace LeapDay

/-!
The morning of 1 March 2024 in universal time, while clocks that are behind by 5 hours and 45
minutes show the end of 29 February.
-/

def instant : Instant := .ofSeconds 1709269200

def behind : Rfc3339.Spelling where
  separator := ' '
  digits := [5, 0, 0, 0, 0, 0, 0, 0, 0, 9]
  zone := some {
    offset := -345
    sign := '−'
    neg_day_lt := by decide
    lt_day := by decide
    sign_spec := by decide }
  separator_mem := by decide

def universal : Rfc3339.Spelling where
  separator := 'T'
  digits := [5]
  zone := none
  separator_mem := by decide

end LeapDay

/-- Both spellings of an instant of the leap day get the same advice. -/
theorem decision_eq_of_spellings_on_leap_day :
    LeapDay.behind.text LeapDay.instant = "2024-02-29 23:15:00.5000000009−05:45" ∧
      LeapDay.universal.text LeapDay.instant = "2024-03-01T05:00:00.5Z" ∧
      ∀ (policy : Policy) (pod : Pod) (now : Instant),
        (judge policy (pod.annotate startMarker "2024-02-29 23:15:00.5000000009−05:45")
            now).retry policy =
          (judge policy (pod.annotate startMarker "2024-03-01T05:00:00.5Z") now).retry policy := by
  have hbehind : LeapDay.behind.text LeapDay.instant = "2024-02-29 23:15:00.5000000009−05:45" := by
    decide +kernel
  have huniversal : LeapDay.universal.text LeapDay.instant = "2024-03-01T05:00:00.5Z" := by
    decide +kernel
  have hyear : 1 ≤ LeapDay.instant.date.year ∧ LeapDay.instant.date.year ≤ 9998 := by
    decide +kernel
  have hsame := (decision_eq_of_spellings hyear LeapDay.behind LeapDay.universal
    (by decide +kernel)).2.2
  rw [hbehind, huniversal] at hsame
  refine ⟨hbehind, huniversal, ?_⟩
  intro policy pod now
  exact (hsame policy pod now).1

end RunnerRelease
