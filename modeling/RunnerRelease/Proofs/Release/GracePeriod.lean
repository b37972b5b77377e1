import RunnerRelease.Proofs.Release.Visits
import RunnerRelease.Proofs.Time.Instant
import RunnerRelease.Proofs.Time.Rfc3339

/-!
# The grace period

A runner that is not registered has time to register until the timeout has passed since the
first tick. Until then its pod is kept, and from then on it is let go, by whichever tick comes
and whatever the clocks of the ticks show.

## Implementation notes

The beginning is what the start marker says: the time of the tick that has written it, without
its fraction of a second. The deadline is added up with `Instant.add?`, as the ticks do.
-/

namespace RunnerRelease

open Pod Procedure

section

variable {policy : Policy} {scope : Scope} {runner key text : String} {now : Instant}
  {given held : Pod} {stored next last : Json} {answers : List Answered} {visit : Visit}

/-- The tick has seen a listing without the runner, on a pod that has not stopped. -/
structure Visit.Waits (policy : Policy) (scope : Scope) (runner : String) (visit : Visit) :
    Prop where
  listed : ∃ runners, ⟨.listRunners scope, .ok runners⟩ ∈ visit.answers ∧
    ∀ entry ∈ runners, ¬ (entry.name = runner ∧ entry.id ≠ 0)
  running : visit.held.isStopped policy.container = false

/-- The tick lets its pod go, unless its own patch for the completion marker fails. -/
inductive Visit.Releases (visit : Visit) : Prop
  | released {pod : Pod} (hresult : visit.result = .ok (.safeToDelete (some pod)))
  | uncompleted {base : Pod} {failure : Failure}
      (hlast : visit.answers.getLast? = some ⟨.patchPod base
        (base.annotate completeMarker (Rfc3339.render visit.now)), .error failure⟩)
      (hresult : visit.result = .error failure)

/-- The tick does what a decision with this advice demands. -/
def Visit.Follows (visit : Visit) : Option Retry → Prop
  | some advice => visit.result = .ok (.retry advice)
  | none => visit.Releases

/-- Where no registration has been listed, the advice is that of the pod, which is not complete. -/
theorem Decides.judged {advice : Option Retry} {runners : List Runner}
    (h : Decides policy scope runner (some held) now answers advice)
    (hlist : ⟨.listRunners scope, .ok runners⟩ ∈ answers)
    (habsent : ∀ entry ∈ runners, ¬ (entry.name = runner ∧ entry.id ≠ 0)) :
    held.annotated completeMarker = none ∧ advice = (judge policy held now).retry policy := by
  have hregistered {found : List Runner} {entry : Runner}
      (hfind : found.find? (Runner.registers runner) = some entry) : runners ≠ found := by
    rintro rfl
    apply habsent entry (List.mem_of_find?_eq_some hfind)
    simpa [Runner.registers] using List.find?_some hfind
  cases h with
  | decided _ => cases hlist
  | asked hnone hask =>
      refine ⟨hnone, ?_⟩
      cases hask with
      | unlisted error => simp at hlist
      | absent _ => rfl
      | removed hfind => simp [hregistered hfind] at hlist
      | refused hfind error => simp [hregistered hfind] at hlist

/--
A tick that has seen a listing without the runner has dealt with the start marker and follows
the advice of the pod that it holds then: it is to be repeated, or it writes the completion
marker and lets the pod go.
-/
theorem Ticks.exists_decision {result : Except Failure TickOutcome} {runners : List Runner}
    (h : Ticks policy scope runner (some given) now answers result)
    (hlist : ⟨.listRunners scope, .ok runners⟩ ∈ answers)
    (habsent : ∀ entry ∈ runners, ¬ (entry.name = runner ∧ entry.id ≠ 0)) :
    ∃ first middle rest held, answers = first ++ (middle ++ rest) ∧
      Marks given startMarker (Rfc3339.render now) first (.ok held) ∧
      (∀ a ∈ middle, a.call.isToRunnerService) ∧ middle ≠ [] ∧
      ((∃ advice, (judge policy held now).retry policy = some advice ∧
          result = .ok (.retry advice)) ∨
        (judge policy held now).retry policy = none ∧ ∃ answer,
          rest = [⟨.patchPod held (held.annotate completeMarker (Rfc3339.render now)), answer⟩] ∧
            result = answer.map fun pod => .safeToDelete (some pod)) := by
  have hpatches {key text : String} {p : Option Pod} {calls : List Answered}
      {marked : Except Failure (Option Pod)} (hmarks : MarksIfAny key text p calls marked) :
      ⟨.listRunners scope, .ok runners⟩ ∉ calls := by
    intro hmem
    cases (hmarks.exists_markerPatch _ hmem).1
  have hheld {first : List Answered} {p : Option Pod}
      (hstart : MarksIfAny startMarker (Rfc3339.render now) (some given) first (.ok p)) :
      ∃ held, p = some held ∧ Marks given startMarker (Rfc3339.render now) first (.ok held) := by
    obtain ⟨result, hmarks, hresult⟩ := hstart.exists_marks
    cases result with
    | error failure => cases hresult
    | ok held =>
        cases hresult
        exact ⟨held, rfl, hmarks⟩
  cases h with
  | unstarted hstart => exact absurd hlist (hpatches hstart)
  | @advised first middle _ advice hstart hdecide =>
      have hmem := (List.mem_append.1 hlist).resolve_left (hpatches hstart)
      obtain ⟨held, rfl, hmarks⟩ := hheld hstart
      refine ⟨first, middle, [], held, by simp, hmarks, hdecide.isToRunnerService,
        List.ne_nil_of_mem hmem, .inl ⟨advice, ?_, rfl⟩⟩
      exact (hdecide.judged hmem habsent).2.symm
  | @completed first middle rest _ completed hstart hdecide hcomplete =>
      have hbefore := (List.mem_append.1 hlist).resolve_right (hpatches hcomplete)
      have hmem := (List.mem_append.1 hbefore).resolve_left (hpatches hstart)
      obtain ⟨held, rfl, hmarks⟩ := hheld hstart
      obtain ⟨hincomplete, hadvice⟩ := hdecide.judged hmem habsent
      refine ⟨first, middle, rest, held, by simp, hmarks, hdecide.isToRunnerService,
        List.ne_nil_of_mem hmem, .inr ⟨hadvice.symm, ?_⟩⟩
      obtain ⟨answer, hcompletes, rfl⟩ := hcomplete.exists_marks
      cases hcompletes with
      | present hsome =>
          rw [hincomplete] at hsome
          cases hsome
      | asked _ _ => exact ⟨answer, rfl, by cases answer <;> rfl⟩

/-- The pod that is held after the start marker has been dealt with has it. -/
theorem Marks.annotated (h : Marks given key text answers (.ok held))
    (hstores : Stores stored answers next) (hkey : key ∈ markerKeys) :
    held.annotated key = some ((given.annotated key).getD text) := by
  cases h with
  | present hsome =>
      obtain ⟨value, hvalue⟩ := Option.isSome_iff_exists.1 hsome
      rw [hvalue, Option.getD_some]
  | asked hmissing _ =>
      rw [hmissing, Option.getD_none]
      exact (hstores.of_markerPatch hkey (patchTo_annotate text hmissing)).2 held rfl

/-- The patches before the runner service is asked are those for the start marker. -/
theorem takeWhile_isPatch {first middle rest : List Answered}
    (hfirst : ∀ a ∈ first, a.call.isPatch) (hmiddle : ∀ a ∈ middle, a.call.isToRunnerService)
    (hne : middle ≠ []) :
    (first ++ (middle ++ rest)).takeWhile (fun a => a.call.isPatch) = first := by
  rw [List.takeWhile_append_of_pos hfirst]
  cases middle with
  | nil => exact absurd rfl hne
  | cons a middle =>
      have hcall : ¬ a.call.isPatch := fun hpatch =>
        Call.not_isToRunnerService_of_isPatch hpatch (hmiddle a List.mem_cons_self)
      rw [List.cons_append,
        List.takeWhile_cons_of_neg (p := fun a : Answered => a.call.isPatch) hcall,
        List.append_nil]

namespace Visit

/-- A tick leaves the start marker as it is, or writes it if it is missing. -/
theorem Takes.at?_startMarker (h : visit.Takes policy scope runner stored next) :
    next.at? (annotationPath startMarker) = stored.at? (annotationPath startMarker) ∨
      stored.at? (annotationPath startMarker) = none ∧
        next.at? (annotationPath startMarker) = some (.string (Rfc3339.render visit.now)) := by
  obtain ⟨first, rest, marked, hanswers, hstart, hrest⟩ := (ticks_of_yields h.yields).exists_start
  have hstores := h.stores
  rw [hanswers] at hstores
  obtain ⟨middle, hfirst, hlater⟩ := hstores.exists_append
  have hsame : next.at? (annotationPath startMarker) = middle.at? (annotationPath startMarker) := by
    apply hlater.at?_eq startMarker_mem
    intro a ha patch hpatch
    obtain ⟨version, hpatch⟩ := hrest a ha patch hpatch
    exact ⟨version, completeMarker, _, by decide, hpatch⟩
  rw [hsame]
  obtain ⟨result, hmarks, -⟩ := hstart.exists_marks
  cases hmarks with
  | present _ => exact .inl (hfirst.at?_eq startMarker_mem (by simp))
  | asked hmissing _ =>
      have hnone : stored.at? (annotationPath startMarker) = none := by
        rw [h.read.at?_annotation, hmissing]
        rfl
      rcases (hfirst.of_markerPatch startMarker_mem (patchTo_annotate _ hmissing)).1 with
        hkept | hwritten
      · exact .inl hkept
      · exact .inr ⟨hnone, hwritten⟩

/-- A tick that waits follows the advice of the pod that it holds, which has the start marker. -/
theorem Takes.follows (h : visit.Takes policy scope runner stored next)
    (hwaits : visit.Waits policy scope runner) :
    visit.held.annotated startMarker =
        some ((visit.given.annotated startMarker).getD (Rfc3339.render visit.now)) ∧
      visit.Follows ((judge policy visit.held visit.now).retry policy) := by
  obtain ⟨runners, hlist, habsent⟩ := hwaits.listed
  obtain ⟨first, middle, rest, held, hanswers, hmarks, hservice, hne, hdecided⟩ :=
    (ticks_of_yields h.yields).exists_decision hlist habsent
  have hpatch : ∀ a ∈ first, a.call.isPatch := by
    cases hmarks <;> simp [Call.isPatch]
  have hheld : visit.held = held := by
    rw [Visit.held, hanswers, takeWhile_isPatch hpatch hservice hne, hmarks.heldAfter_eq]
  have hstores := h.stores
  rw [hanswers] at hstores
  obtain ⟨_, hfirst, -⟩ := hstores.exists_append
  rw [hheld]
  refine ⟨hmarks.annotated hfirst startMarker_mem, ?_⟩
  rcases hdecided with ⟨advice, hadvice, hresult⟩ | ⟨hadvice, answer, rfl, hresult⟩
  · rw [hadvice]
    exact hresult
  · rw [hadvice]
    cases answer with
    | ok pod => exact .released hresult
    | error failure =>
        refine @Releases.uncompleted visit held failure ?_ hresult
        rw [hanswers, ← List.append_assoc, List.getLast?_append]
        rfl

end Visit

/-- The advice of a running pod with a start marker depends on the deadline alone. -/
theorem judge_retry_of_started {pod : Pod} {started : Instant}
    (hrunning : pod.isStopped policy.container = false)
    (hmarker : pod.annotated startMarker = some text)
    (hparse : Rfc3339.parse text = .ok started) :
    (judge policy pod now).retry policy =
      match started.add? policy.timeout.toNat with
      | none => some { after := policy.retrySpan }
      | some deadline => if deadline ≤ now then none else some { after := policy.retrySpan } := by
  rw [judge, hrunning, if_neg Bool.false_ne_true, hmarker]
  simp only [hparse, Policy.deadline?]
  cases started.add? policy.timeout.toNat with
  | none => rfl
  | some deadline =>
      by_cases hnow : deadline ≤ now
      · simp only [if_pos hnow]
        rfl
      · simp only [if_neg hnow]
        rfl

/-- What a tick that waits does at a time, after a beginning. -/
def Visit.Observes (policy : Policy) (started : Instant) (visit : Visit) : Prop :=
  match started.add? policy.timeout.toNat with
  | none => visit.result = .ok (.retry { after := policy.retrySpan })
  | some deadline =>
      if visit.now < deadline then visit.result = .ok (.retry { after := policy.retrySpan })
      else visit.Releases

/-- A tick that waits keeps to the deadline after what the start marker says. -/
theorem Visit.Takes.observes {started : Instant}
    (h : visit.Takes policy scope runner stored next)
    (hwaits : visit.Waits policy scope runner)
    (hmarker : (visit.given.annotated startMarker).getD (Rfc3339.render visit.now) = text)
    (hparse : Rfc3339.parse text = .ok started) : visit.Observes policy started := by
  obtain ⟨hannotated, hfollows⟩ := h.follows hwaits
  rw [hmarker] at hannotated
  rw [judge_retry_of_started hwaits.running hannotated hparse] at hfollows
  rw [Visit.Observes]
  cases hdeadline : started.add? policy.timeout.toNat with
  | none =>
      rw [hdeadline] at hfollows
      exact hfollows
  | some deadline =>
      rw [hdeadline] at hfollows
      dsimp only at hfollows ⊢
      by_cases hnow : deadline ≤ visit.now
      · rw [if_pos hnow] at hfollows
        rw [if_neg (fun hlt => Instant.not_le.2 hlt hnow)]
        exact hfollows
      · rw [if_neg hnow] at hfollows
        rw [if_pos (Instant.not_le.1 hnow)]
        exact hfollows

/-- All ticks keep to the same deadline once the start marker has been written. -/
theorem Visits.observes {visits : List Visit} {started : Instant}
    (h : Visits policy scope runner stored visits last)
    (hmarker : stored.at? (annotationPath startMarker) = some (.string text))
    (hparse : Rfc3339.parse text = .ok started) :
    ∀ visit ∈ visits, visit.Waits policy scope runner → visit.Observes policy started := by
  induction h with
  | nil => simp
  | outside hmarkers _ ih =>
      apply ih
      rw [hmarkers startMarker startMarker_mem]
      exact hmarker
  | cons hvisit _ ih =>
      rw [List.forall_mem_cons]
      constructor
      · intro hwaits
        refine hvisit.observes hwaits ?_ hparse
        rw [hvisit.read.at?_annotation, Option.map_eq_some_iff] at hmarker
        obtain ⟨found, hfound, hsame⟩ := hmarker
        cases hsame
        rw [hfound, Option.getD_some]
      · apply ih
        rcases hvisit.at?_startMarker with hsame | ⟨hnone, -⟩
        · rw [hsame]
          exact hmarker
        · rw [hnone] at hmarker
          cases hmarker

/--
A pod without markers is visited by one tick after the other, the first of which writes the
start marker in a year with four digits. Every tick that finds no registration while the pod has
not stopped is to be repeated after the usual delay until the timeout has passed since the whole
second of the first tick, or for ever if there is no such instant, and lets the pod go from then
on. The first of them does not if the timeout is at least one second.
-/
theorem grace_period_of_visits {first : Visit} {later : List Visit}
    (hunmarked : ∀ key ∈ markerKeys, stored.at? (annotationPath key) = none)
    (hfirst : first.Takes policy scope runner stored next)
    (hwritten : (next.at? (annotationPath startMarker)).isSome)
    (hyear : 0 ≤ first.now.date.year ∧ first.now.date.year ≤ 9999)
    (hlater : Visits policy scope runner next later last) :
    (∀ visit ∈ first :: later, visit.Waits policy scope runner →
        match first.now.truncate.add? policy.timeout.toNat with
        | none => visit.result = .ok (.retry { after := policy.retrySpan })
        | some deadline =>
            if visit.now < deadline then visit.result = .ok (.retry { after := policy.retrySpan })
            else visit.Releases) ∧
      (1 ≤ policy.timeout.toNat → first.Waits policy scope runner →
        first.result = .ok (.retry { after := policy.retrySpan })) := by
  have hparse := Rfc3339.parse_render hyear
  have hnone := hunmarked startMarker startMarker_mem
  have hmarker : next.at? (annotationPath startMarker) =
      some (.string (Rfc3339.render first.now)) := by
    rcases hfirst.at?_startMarker with hsame | ⟨-, hmarker⟩
    · rw [hsame, hnone] at hwritten
      cases hwritten
    · exact hmarker
  have hgiven : first.given.annotated startMarker = none := by
    rw [hfirst.read.at?_annotation] at hnone
    simpa using hnone
  have hobserves : first.Waits policy scope runner → first.Observes policy first.now.truncate := by
    intro hwaits
    exact hfirst.observes hwaits (by rw [hgiven, Option.getD_none]) hparse
  constructor
  · rw [List.forall_mem_cons]
    exact ⟨hobserves, hlater.observes hmarker hparse⟩
  · intro htimeout hwaits
    have hresult := hobserves hwaits
    rw [Visit.Observes] at hresult
    cases hdeadline : first.now.truncate.add? policy.timeout.toNat with
    | none =>
        rw [hdeadline] at hresult
        exact hresult
    | some deadline =>
        rw [hdeadline] at hresult
        dsimp only at hresult
        rw [if_pos (Instant.lt_of_add?_truncate hdeadline htimeout)] at hresult
        exact hresult

end

namespace LateRunner

/-!
A runner does not register. The first tick is taken at the beginning of 1970, the second one a
minute later.
-/

def scope : Scope := .organization "o"

/-- The pod with some markers, running. -/
def document (markers : List (String × String)) : Document :=
  .object [
    (some "metadata", .object [
      (some "annotations", .object (markers.map fun marker =>
        (some marker.1, .string (some marker.2)))),
      (some "name", .string (some "runner"))]),
    (some "status", .object [(some "phase", .string (some "Running"))])]

def stored (markers : List (String × String)) : Json := (document markers).toJson?.getD .null

def pod (markers : List (String × String)) : Pod := (Pod.ofDocument? (document markers)).getD {}

def started : List (String × String) := [(startMarker, "1970-01-01T00:00:00Z")]

def completed : List (String × String) := (completeMarker, "1970-01-01T00:01:00Z") :: started

/-- The tick that begins the release. -/
def first : Visit where
  now := .ofSeconds 0
  given := pod []
  answers := [
    ⟨.patchPod (pod []) ((pod []).annotate startMarker (Rfc3339.render (.ofSeconds 0))),
      .ok (pod started)⟩,
    ⟨.listRunners scope, .ok []⟩]
  result := .ok (.retry { after := .ofSeconds 30 })

/-- The tick after the minute that the runner is given. -/
def second : Visit where
  now := .ofSeconds 60
  given := pod started
  answers := [
    ⟨.listRunners scope, .ok []⟩,
    ⟨.patchPod (pod started)
      ((pod started).annotate completeMarker (Rfc3339.render (.ofSeconds 60))),
      .ok (pod completed)⟩]
  result := .ok (.safeToDelete (some (pod completed)))

theorem first_takes : first.Takes {} scope "runner" (stored []) (stored started) where
  read := ⟨document [], rfl, rfl⟩
  yields := by
    have hadvice : verdict {} (some (pod started)) (.ofSeconds 0) (.ok .notFound) =
        some { after := .ofSeconds 30 } := by decide +kernel
    have hdecide : Decides {} scope "runner" (some (pod started)) (.ofSeconds 0)
        [⟨.listRunners scope, .ok []⟩] (some { after := .ofSeconds 30 }) := by
      rw [← hadvice]
      exact .asked rfl (.absent rfl)
    exact (Ticks.advised (.somebody (.asked rfl (.ok (pod started)))) hdecide).yields
  stores := by
    refine .patched ?_ ⟨document started, rfl, rfl⟩ (.kept rfl .nil)
    rw [Applied, markerKeys, List.forall_mem_cons, List.forall_mem_singleton]
    exact ⟨rfl, rfl⟩

theorem second_takes : second.Takes {} scope "runner" (stored started) (stored completed) where
  read := ⟨document started, rfl, rfl⟩
  yields := by
    have hadvice : verdict {} (some (pod started)) (.ofSeconds 60) (.ok .notFound) = none := by
      decide +kernel
    have hdecide : Decides {} scope "runner" (some (pod started)) (.ofSeconds 60)
        [⟨.listRunners scope, .ok []⟩] none := by
      rw [← hadvice]
      exact .asked rfl (.absent rfl)
    exact (Ticks.completed (.somebody (.present rfl)) hdecide
      (.somebody (.asked rfl (.ok (pod completed))))).yields
  stores := by
    refine .kept rfl (.patched ?_ ⟨document completed, rfl, rfl⟩ .nil)
    rw [Applied, markerKeys, List.forall_mem_cons, List.forall_mem_singleton]
    exact ⟨rfl, rfl⟩

end LateRunner

/-- The first tick of a runner that does not register waits, and the second one releases its pod. -/
theorem grace_period_of_late_runner :
    LateRunner.first.result = .ok (.retry { after := .ofSeconds 30 }) ∧
      LateRunner.second.Releases := by
  have hunmarked : ∀ key ∈ markerKeys, (LateRunner.stored []).at? (annotationPath key) = none := by
    rw [markerKeys, List.forall_mem_cons, List.forall_mem_singleton]
    exact ⟨rfl, rfl⟩
  have hfirst : LateRunner.first.Waits {} LateRunner.scope "runner" :=
    ⟨⟨[], by simp [LateRunner.first], by simp⟩, by decide +kernel⟩
  have hsecond : LateRunner.second.Waits {} LateRunner.scope "runner" :=
    ⟨⟨[], by simp [LateRunner.second], by simp⟩, by decide +kernel⟩
  obtain ⟨hall, hkept⟩ := grace_period_of_visits hunmarked LateRunner.first_takes (by decide +kernel)
    (by decide +kernel) (.cons LateRunner.second_takes .nil)
  refine ⟨hkept (by decide) hfirst, ?_⟩
  exact hall LateRunner.second (by simp) hsecond

end RunnerRelease
