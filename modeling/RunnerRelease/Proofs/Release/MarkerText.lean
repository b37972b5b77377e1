import RunnerRelease.Proofs.Release.GracePeriod

/-!
# The text of a marker

What a tick writes as a marker is read again as the whole second of the tick, if the year has four
digits. The text of any other year is refused, and a tick that meets it as the start marker
reports it.

## Implementation notes

The reader and the writer are those of `Rfc3339`; a tick reads the start marker only. Whether
ticks and markers agree on the time is a matter of the text alone, so the tick that meets a text
may have nothing else in common with the one that wrote it.
-/

namespace RunnerRelease

open Pod Procedure

section

variable {policy : Policy} {scope : Scope} {runner : String} {given : Option Pod} {pod : Pod}
  {now : Instant} {answers : List Answered} {result : Except Failure TickOutcome}

/-- All markers that a tick writes have the text of its time. -/
theorem Ticks.marker_eq {patch value : Json} {key : String} {a : Answered}
    (h : Ticks policy scope runner given now answers result) (ha : a ∈ answers)
    (hpatch : a.call.patch? = some patch) (hvalue : patch.at? (annotationPath key) = some value) :
    value = .string (Rfc3339.render now) := by
  have hwritten : ∃ version marker,
      patch = markerPatch version marker (Rfc3339.render now) := by
    obtain ⟨first, rest, marked, rfl, hstart, hrest⟩ := h.exists_start
    rcases List.mem_append.1 ha with hfirst | hlater
    · obtain ⟨-, version, hmarker⟩ := hstart.exists_markerPatch a hfirst
      exact ⟨version, startMarker, Option.some.inj (hpatch.symm.trans hmarker)⟩
    · obtain ⟨version, hmarker⟩ := hrest a hlater patch hpatch
      exact ⟨version, completeMarker, hmarker⟩
  obtain ⟨version, marker, rfl⟩ := hwritten
  rw [at?_annotation_markerPatch] at hvalue
  split at hvalue
  · exact (Option.some.inj hvalue).symm
  · cases hvalue

/-- A tick that finds no registration follows the advice of a running pod with a start marker. -/
theorem Ticks.result_of_annotated {runners : List Runner} {text : String} {advice : Retry}
    (h : Ticks policy scope runner (some pod) now answers result)
    (hmarker : pod.annotated startMarker = some text)
    (hlist : ⟨.listRunners scope, .ok runners⟩ ∈ answers)
    (habsent : ∀ entry ∈ runners, ¬ (entry.name = runner ∧ entry.id ≠ 0))
    (hadvice : (judge policy pod now).retry policy = some advice) :
    result = .ok (.retry advice) := by
  obtain ⟨first, middle, rest, held, -, hmarks, -, -, hdecided⟩ := h.exists_decision hlist habsent
  have hheld : held = pod := by
    generalize hresult : (Except.ok held : Except Failure Pod) = marked at hmarks
    cases hmarks with
    | present _ => exact Except.ok.inj hresult
    | asked hmissing _ =>
        rw [hmarker] at hmissing
        cases hmissing
  rw [hheld] at hdecided
  rcases hdecided with ⟨found, hfound, hresult⟩ | ⟨hnone, -⟩
  · rw [hadvice] at hfound
    rw [hresult, Option.some.inj hfound]
  · rw [hadvice] at hnone
    cases hnone

/-- The advice of a running pod whose start marker cannot be read is to report that. -/
theorem judge_retry_of_unreadable {text : String} {fault : Rfc3339.Fault}
    (hrunning : pod.isStopped policy.container = false)
    (hmarker : pod.annotated startMarker = some text)
    (hparse : Rfc3339.parse text = .error fault) :
    (judge policy pod now).retry policy = some {
      after := policy.retrySpan
      failure := some (.invalidMarker startMarker text fault) } := by
  rw [judge, hrunning, if_neg Bool.false_ne_true, hmarker]
  simp only [hparse]
  rfl

/--
A tick writes the same text as any marker. In a year with four digits the text is read as the
time of the tick without its fraction of a second, and second 60 as second 60. In any other year
it is refused, and every tick that finds no registration while the pod runs with this text as its
start marker reports it and is to be repeated after the usual delay.
-/
theorem written_marker_reads_back (now : Instant) :
    (∀ policy scope runner given answers result,
      (tick policy scope runner given now).Yields answers result → ∀ a ∈ answers, ∀ patch,
        a.call.patch? = some patch → ∀ key value, patch.at? (annotationPath key) = some value →
          value = .string (Rfc3339.render now)) ∧
      (0 ≤ now.date.year ∧ now.date.year ≤ 9999 →
        ∃ t, Rfc3339.parse (Rfc3339.render now) = .ok t ∧ t.seconds = now.seconds ∧
          t.nanos = if now.isLeap then 1000000000 else 0) ∧
      (¬ (0 ≤ now.date.year ∧ now.date.year ≤ 9999) →
        Rfc3339.parse (Rfc3339.render now) = .error .invalid ∧
        ∀ policy scope runner pod later answers result runners,
          pod.annotated startMarker = some (Rfc3339.render now) →
          pod.isStopped policy.container = false →
          (tick policy scope runner (some pod) later).Yields answers result →
          ⟨.listRunners scope, .ok runners⟩ ∈ answers →
          (∀ entry ∈ runners, ¬ (entry.name = runner ∧ entry.id ≠ 0)) →
          result = .ok (.retry {
            after := policy.retrySpan
            failure := some (.invalidMarker startMarker (Rfc3339.render now) .invalid) })) := by
  refine ⟨?_, ?_, ?_⟩
  · intro policy scope runner given answers result hyields a ha patch hpatch key value hvalue
    exact (ticks_of_yields hyields).marker_eq ha hpatch hvalue
  · intro hyear
    refine ⟨now.truncate, Rfc3339.parse_render hyear, ?_⟩
    by_cases hleap : 1000000000 ≤ now.nanos
    · rw [Instant.truncate, dif_pos hleap]
      exact ⟨rfl, by simp [Instant.isLeap, hleap]⟩
    · rw [Instant.truncate, dif_neg hleap]
      exact ⟨rfl, by simp [Instant.isLeap, hleap]⟩
  · intro hyear
    have hparse := Rfc3339.parse_render_of_signed hyear
    refine ⟨hparse, ?_⟩
    intro policy scope runner pod later answers result runners hmarker hrunning hyields hlist habsent
    apply (ticks_of_yields hyields).result_of_annotated hmarker hlist habsent
    exact judge_retry_of_unreadable hrunning hmarker hparse

end

namespace FarMarker

/-!
A marker that has been written at the beginning of the year 10000, and a runner that is not
registered.
-/

def written : Instant := .ofSeconds 253402300800

def pod : Pod := { metadata := {
  annotations := some (.ofList [(startMarker, Rfc3339.render written)]) } }

def scope : Scope := .organization "o"

end FarMarker

/--
The leap second at the end of 2016 is read again as one. The marker of the year 10000 is reported
by a tick at the same time.
-/
theorem written_marker_reads_back_at_leap_second :
    (∃ t, Rfc3339.parse (Rfc3339.render { seconds := 1483228799, nanos := 1500000000 }) = .ok t ∧
      t.seconds = 1483228799 ∧ t.nanos = 1000000000) ∧
    ∃ answers, (tick {} FarMarker.scope "runner" (some FarMarker.pod) FarMarker.written).Yields
      answers (.ok (.retry {
        after := .ofSeconds 30
        failure := some (.invalidMarker startMarker "+10000-01-01T00:00:00Z" .invalid) })) := by
  constructor
  · exact (written_marker_reads_back { seconds := 1483228799, nanos := 1500000000 }).2.1
      (by decide +kernel)
  · obtain ⟨advice, hadvice⟩ : ∃ advice,
        verdict {} (some FarMarker.pod) FarMarker.written (.ok .notFound) = some advice :=
      Option.isSome_iff_exists.1 (by decide +kernel)
    have hdecide : Decides {} FarMarker.scope "runner" (some FarMarker.pod) FarMarker.written
        [⟨.listRunners FarMarker.scope, .ok []⟩] (some advice) := by
      rw [← hadvice]
      exact .asked (by decide +kernel) (.absent rfl)
    have hyields := (Ticks.advised (.somebody (.present (by decide +kernel))) hdecide).yields
    have hresult := ((written_marker_reads_back FarMarker.written).2.2 (by decide +kernel)).2 {}
      FarMarker.scope "runner" FarMarker.pod FarMarker.written _ _ [] (by decide +kernel)
      (by decide +kernel) hyields (by simp) (by simp)
    have htext : Rfc3339.render FarMarker.written = "+10000-01-01T00:00:00Z" := by decide +kernel
    rw [hresult, htext] at hyields
    exact ⟨_, hyields⟩

end RunnerRelease
