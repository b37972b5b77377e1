import RunnerRelease.Proofs.Cluster.Basic
import RunnerRelease.Proofs.Release.Course
import RunnerRelease.Proofs.Release.Priority

/-!
# Repeated ticks

A tick that is repeated at once, on the pod as the first tick has left it, writes nothing and
comes to the same outcome. A pod that a tick has let go is let go ever after, without a request.

## Implementation notes

The first tick decides on another pod than it was given if it writes the start marker. What
makes the two ticks agree is that the second one is given the pod on which the first one has
decided, or that pod with both markers. Of a pod that is stored only its markers need to be the
ones submitted; a store may change anything else, as it does with the version.
-/

namespace RunnerRelease

open Procedure

/-- A pod that has been submitted is stored with the markers that were submitted. -/
def Answered.KeepsMarkers : Answered → Prop
  | ⟨.patchPod _ updated, .ok stored⟩ =>
      ∀ key ∈ markerKeys, stored.annotated key = updated.annotated key
  | _ => True

/-- The pod has both markers. -/
def Pod.IsMarked (pod : Pod) : Prop := ∀ key ∈ markerKeys, (pod.annotated key).isSome

section

variable {service : Rehearsal} {policy : Policy} {scope : Scope} {runner key text : String}
  {given held : Option Pod} {pod : Pod} {now : Instant} {answers first second : List Answered}
  {advice again : Option Retry} {outcome : TickOutcome} {result : Except Failure TickOutcome}

/-- A pod that has a marker is held as it is. -/
theorem MarksIfAny.of_isSome {marked : Except Failure (Option Pod)}
    (h : MarksIfAny key text given answers marked)
    (hsome : ∀ pod ∈ given, (pod.annotated key).isSome) : answers = [] ∧ marked = .ok given := by
  cases h with
  | nobody => exact ⟨rfl, rfl⟩
  | @somebody pod answers marked hmarks =>
      cases hmarks with
      | present _ => exact ⟨rfl, rfl⟩
      | asked hmissing _ =>
          have hfound := hsome pod rfl
          rw [hmissing] at hfound
          cases hfound

/-- The pod that is held after a marker has been dealt with is the one stored last. -/
theorem MarksIfAny.held_eq (h : MarksIfAny key text given answers (.ok held)) :
    held = given.map fun pod => heldAfter pod answers := by
  generalize hheld : (Except.ok held : Except Failure (Option Pod)) = marked at h
  cases h with
  | nobody =>
      cases hheld
      rfl
  | @somebody pod answers marked hmarks =>
      cases marked with
      | error failure => cases hheld
      | ok kept =>
          cases hheld
          exact congrArg some hmarks.heldAfter_eq.symm

/-- The pod that is held then has the marker, and the other one if it was there before. -/
theorem MarksIfAny.isSome_annotated (h : MarksIfAny key text given answers (.ok held))
    (hkey : key ∈ markerKeys) (hkeeps : ∀ a ∈ answers, a.KeepsMarkers) :
    ∀ pod ∈ held, (pod.annotated key).isSome ∧
      ∀ other ∈ markerKeys, (∀ pod ∈ given, (pod.annotated other).isSome) →
        (pod.annotated other).isSome := by
  generalize hheld : (Except.ok held : Except Failure (Option Pod)) = marked at h
  cases h with
  | nobody =>
      cases hheld
      simp
  | @somebody pod answers marked hmarks =>
      cases hmarks with
      | present hsome =>
          cases hheld
          rintro _ ⟨⟩
          exact ⟨hsome, fun other _ hother => hother pod rfl⟩
      | asked _ _ =>
          cases marked with
          | error failure => cases hheld
          | ok stored =>
              cases hheld
              rintro _ ⟨⟩
              have hstored := hkeeps _ (List.mem_singleton_self _)
              constructor
              · rw [hstored key hkey, Pod.annotated_annotate, if_pos rfl]
                rfl
              · intro other hmem hother
                rw [hstored other hmem, Pod.annotated_annotate]
                split
                · rfl
                · exact hother pod rfl

/-- Where the runner service answers as before, a decision about a pod is the same as before. -/
theorem Decides.eq_of_gives (h : Decides policy scope runner given now first advice)
    (hagain : Decides policy scope runner given now second again)
    (hfirst : ∀ a ∈ first, service.Gives a) (hsecond : ∀ a ∈ second, service.Gives a) :
    again = advice := by
  cases h with
  | decided hcomplete =>
      cases hagain with
      | decided _ => rfl
      | asked hnone _ =>
          rw [hnone] at hcomplete
          cases hcomplete
  | asked hnone hask =>
      cases hagain with
      | decided hcomplete =>
          rw [hnone] at hcomplete
          cases hcomplete
      | asked _ hask' => rw [(hask.of_gives hfirst).1, (hask'.of_gives hsecond).1]

/-- A tick asks nothing about a pod with both markers, and lets it go. -/
theorem Ticks.of_isMarked (h : Ticks policy scope runner (some pod) now answers result)
    (hmarked : pod.IsMarked) : answers = [] ∧ result = .ok (.safeToDelete (some pod)) := by
  have hmarker (key : String) (hkey : key ∈ markerKeys) :
      ∀ found ∈ some pod, (found.annotated key).isSome := by
    rintro _ ⟨⟩
    exact hmarked key hkey
  have hstarted := hmarker startMarker (by simp [markerKeys])
  have hcompleted := hmarker completeMarker (by simp [markerKeys])
  have hdecided {middle : List Answered} {advice : Option Retry}
      (hdecide : Decides policy scope runner (some pod) now middle advice) :
      middle = [] ∧ advice = none := by
    cases hdecide with
    | decided _ => exact ⟨rfl, rfl⟩
    | asked hnone _ =>
        have hsome := hcompleted pod rfl
        rw [show pod.annotated completeMarker = none from hnone] at hsome
        cases hsome
  cases h with
  | unstarted hstart => cases (hstart.of_isSome hstarted).2
  | advised hstart hdecide =>
      obtain ⟨-, hheld⟩ := hstart.of_isSome hstarted
      cases hheld
      cases (hdecided hdecide).2
  | completed hstart hdecide hcomplete =>
      obtain ⟨rfl, hheld⟩ := hstart.of_isSome hstarted
      cases hheld
      obtain ⟨rfl, -⟩ := hdecided hdecide
      obtain ⟨rfl, rfl⟩ := hcomplete.of_isSome hcompleted
      exact ⟨rfl, rfl⟩

/-- What a tick leaves behind: the pod that it holds at the end, if it was given one. -/
inductive Leaves (policy : Policy) (scope : Scope) (runner : String) (now : Instant)
    (answers : List Answered) : Option Pod → TickOutcome → Prop
  /-- The pod on which it has decided that the tick is to be repeated. -/
  | decided {held : Option Pod} {advice : Retry} {middle : List Answered}
      (hsub : middle ⊆ answers) (hstarted : ∀ pod ∈ held, (pod.annotated startMarker).isSome)
      (hdecide : Decides policy scope runner held now middle (some advice)) :
      Leaves policy scope runner now answers held (.retry advice)
  /-- A pod with both markers, which may go. -/
  | marked {pod : Pod} (hmarked : pod.IsMarked) :
      Leaves policy scope runner now answers (some pod) (.safeToDelete (some pod))
  /-- No pod, where none was given. -/
  | nothing {middle : List Answered} (hsub : middle ⊆ answers)
      (hdecide : Decides policy scope runner none now middle none) :
      Leaves policy scope runner now answers none (.safeToDelete none)

/-- A tick that does not fail leaves the pod that was stored last. -/
theorem Ticks.leaves (h : Ticks policy scope runner given now answers (.ok outcome))
    (hkeeps : ∀ a ∈ answers, a.KeepsMarkers) :
    Leaves policy scope runner now answers (given.map fun pod => heldAfter pod answers)
      outcome := by
  generalize houtcome : (Except.ok outcome : Except Failure TickOutcome) = result at h
  have hstart : startMarker ∈ markerKeys := by simp [markerKeys]
  have hcomplete : completeMarker ∈ markerKeys := by simp [markerKeys]
  cases h with
  | unstarted _ => cases houtcome
  | @advised first middle held advice hstarts hdecide =>
      cases houtcome
      rw [List.forall_mem_append] at hkeeps
      have hheld : (given.map fun pod => heldAfter pod (first ++ middle)) = held := by
        rw [hstarts.held_eq]
        simp only [heldAfter_append, heldAfter_of_stored?_eq_none hdecide.stored?_eq_none]
      rw [hheld]
      exact .decided (List.subset_append_right _ _)
        (fun pod hpod => (hstarts.isSome_annotated hstart hkeeps.1 pod hpod).1) hdecide
  | @completed first middle last held released hstarts hdecide hcompletes =>
      cases released with
      | error failure => cases houtcome
      | ok released =>
          cases houtcome
          rw [List.forall_mem_append, List.forall_mem_append] at hkeeps
          have hreleased :
              (given.map fun pod => heldAfter pod (first ++ middle ++ last)) = released := by
            rw [hcompletes.held_eq, hstarts.held_eq, Option.map_map]
            simp only [heldAfter_append, heldAfter_of_stored?_eq_none hdecide.stored?_eq_none,
              Function.comp_def]
          rw [hreleased]
          have hheld := hstarts.isSome_annotated hstart hkeeps.1.1
          have hall := hcompletes.isSome_annotated hcomplete hkeeps.2
          cases released with
          | some pod =>
              have hpod := hall pod rfl
              have hmarked : pod.IsMarked := by
                rw [Pod.IsMarked, markerKeys, List.forall_mem_cons, List.forall_mem_singleton]
                exact ⟨hpod.2 startMarker hstart fun p hp => (hheld p hp).1, hpod.1⟩
              exact .marked hmarked
          | none =>
              have hnobody := hcompletes.held_eq
              cases held with
              | some pod => cases hnobody
              | none =>
                  refine .nothing ?_ hdecide
                  intro a ha
                  exact List.mem_append_left _ (List.mem_append_right _ ha)

/-- A tick on what another tick has left writes nothing and comes to the same outcome. -/
theorem Leaves.repeats (h : Leaves policy scope runner now first held outcome)
    (hfirst : ∀ a ∈ first, service.Gives a)
    (hticks : Ticks policy scope runner held now second result)
    (hsecond : ∀ a ∈ second, service.Gives a) :
    result = .ok outcome ∧ ∀ a ∈ second, ¬ a.call.isPatch := by
  have hservice {advice : Option Retry} {middle : List Answered} {pod : Option Pod}
      (hdecide : Decides policy scope runner pod now middle advice) :
      ∀ a ∈ middle, ¬ a.call.isPatch := fun a ha hpatch =>
    Call.not_isToRunnerService_of_isPatch hpatch (hdecide.isToRunnerService a ha)
  cases h with
  | marked hmarked =>
      obtain ⟨rfl, rfl⟩ := hticks.of_isMarked hmarked
      exact ⟨rfl, by simp⟩
  | @decided held advice middle hsub hstarted hdecide =>
      have hgives : ∀ a ∈ middle, service.Gives a := fun a ha => hfirst a (hsub ha)
      cases hticks with
      | unstarted hstart => cases (hstart.of_isSome hstarted).2
      | advised hstart hagain =>
          obtain ⟨rfl, hheld⟩ := hstart.of_isSome hstarted
          cases hheld
          cases hdecide.eq_of_gives hagain hgives hsecond
          exact ⟨rfl, hservice hagain⟩
      | completed hstart hagain _ =>
          obtain ⟨rfl, hheld⟩ := hstart.of_isSome hstarted
          cases hheld
          rw [List.forall_mem_append] at hsecond
          cases hdecide.eq_of_gives hagain hgives hsecond.1
  | @nothing middle hsub hdecide =>
      have hgives : ∀ a ∈ middle, service.Gives a := fun a ha => hfirst a (hsub ha)
      cases hticks with
      | unstarted hstart => cases hstart
      | advised hstart hagain =>
          cases hstart
          cases hdecide.eq_of_gives hagain hgives hsecond
      | completed hstart hagain hcomplete =>
          cases hstart
          cases hcomplete
          rw [List.append_nil]
          exact ⟨rfl, hservice hagain⟩

/-- Nothing is sent about a pod with both markers. -/
theorem run_tick_of_isMarked (conn : Connection) (policy : Policy) (scope : Scope)
    (runner : String) (hmarked : pod.IsMarked) (now : Instant) (replies : List Http.Reply) :
    let run := Session.run conn (tick policy scope runner (some pod) now) replies
    run.result = .ok (.safeToDelete (some pod)) ∧ Event.requests run.events = [] := by
  intro run
  obtain ⟨answers, hyields, hcarries⟩ :=
    Session.accounts_run conn (tick policy scope runner (some pod) now) replies
  obtain ⟨rfl, hresult⟩ := (ticks_of_yields hyields).of_isMarked hmarked
  refine ⟨hresult, ?_⟩
  rw [← requests_exchanged run.events replies]
  change (Session.trace conn (tick policy scope runner (some pod) now) replies).map _ = []
  generalize Session.trace conn (tick policy scope runner (some pod) now) replies = trace
    at hcarries
  cases hcarries
  rfl

/--
A tick that has not failed can be repeated at the same time and with the same answers of the
runner service, on the pod as it is stored then: the second tick writes nothing and comes to the
same outcome. A pod that has been let go has both markers, and every later tick lets it go
without a request, whatever it is to do and whatever would be replied.
-/
theorem tick_repeats (service : Rehearsal) (policy : Policy) (scope : Scope) (runner : String)
    (given : Option Pod) (now : Instant) {first : List Answered} {outcome : TickOutcome}
    (hfirst : (tick policy scope runner given now).Yields first (.ok outcome))
    (hgives : ∀ a ∈ first, service.Gives a) (hkeeps : ∀ a ∈ first, a.KeepsMarkers) :
    let again := tick policy scope runner (given.map fun pod => heldAfter pod first) now
    (∃ second result, again.Yields second result ∧ ∀ a ∈ second, service.Gives a) ∧
      (∀ second result, again.Yields second result → (∀ a ∈ second, service.Gives a) →
        result = .ok outcome ∧ ∀ a ∈ second, ¬ a.call.isPatch) ∧
      ∀ pod, outcome = .safeToDelete (some pod) → pod.IsMarked ∧
        ∀ (conn : Connection) (policy : Policy) (scope : Scope) (runner : String) (now : Instant)
          (replies : List Http.Reply),
          let run := Session.run conn (tick policy scope runner (some pod) now) replies
          run.result = .ok (.safeToDelete (some pod)) ∧ Event.requests run.events = [] := by
  intro again
  have hleaves := (ticks_of_yields hfirst).leaves hkeeps
  refine ⟨?_, ?_, ?_⟩
  · exact exists_yields (fun c => ⟨_, service.gives_answer c⟩) again
  · intro second result hsecond hagain
    exact hleaves.repeats hgives (ticks_of_yields hsecond) hagain
  · rintro pod rfl
    have hmarked : pod.IsMarked := by
      generalize given.map (fun pod => heldAfter pod first) = left at hleaves
      cases hleaves with
      | marked hmarked => exact hmarked
    refine ⟨hmarked, ?_⟩
    intro conn policy scope runner now replies
    exact run_tick_of_isMarked conn policy scope runner hmarked now replies

end

namespace RemovedAtOnce

/-! The first tick of a release removes the registration, so that it writes both markers. -/

def scope : Scope := .organization "o"

def now : Instant := .ofSeconds 0

def service : Rehearsal := { listing := .ok [⟨7, "runner", false, ""⟩] }

def pod : Pod := { metadata := { name := some "runner" } }

def started : Pod := pod.annotate startMarker (Rfc3339.render now)

def completed : Pod := started.annotate completeMarker (Rfc3339.render now)

def answers : List Answered := [
  ⟨.patchPod pod started, .ok started⟩,
  ⟨.listRunners scope, service.listing⟩,
  ⟨.removeRunner scope 7, .ok ()⟩,
  ⟨.patchPod started completed, .ok completed⟩]

theorem yields : (tick {} scope "runner" (some pod) now).Yields answers
    (.ok (.safeToDelete (some completed))) := by
  have hstart : MarksIfAny startMarker (Rfc3339.render now) (some pod)
      [⟨.patchPod pod started, .ok started⟩] (.ok (some started)) :=
    .somebody (.asked rfl (.ok started))
  have hfind : [⟨7, "runner", false, ""⟩].find? (Runner.registers "runner") =
      some ⟨7, "runner", false, ""⟩ := rfl
  have hdecide : Decides {} scope "runner" (some started) now
      [⟨.listRunners scope, service.listing⟩, ⟨.removeRunner scope 7, .ok ()⟩] none :=
    .asked rfl (.removed hfind)
  have hcomplete : MarksIfAny completeMarker (Rfc3339.render now) (some started)
      [⟨.patchPod started completed, .ok completed⟩] (.ok (some completed)) :=
    .somebody (.asked rfl (.ok completed))
  exact (Ticks.completed hstart hdecide hcomplete).yields

end RemovedAtOnce

/-- The pod of a runner that has been removed by a first tick is let go again. -/
theorem tick_repeats_after_removal : ∃ second,
    (tick {} RemovedAtOnce.scope "runner" (some RemovedAtOnce.completed) RemovedAtOnce.now).Yields
      second (.ok (.safeToDelete (some RemovedAtOnce.completed))) ∧
    RemovedAtOnce.completed.IsMarked := by
  obtain ⟨⟨second, result, hsecond, hgives⟩, hsame, hmarked⟩ :=
    tick_repeats RemovedAtOnce.service {} RemovedAtOnce.scope "runner" (some RemovedAtOnce.pod)
      RemovedAtOnce.now RemovedAtOnce.yields
      (by simp [RemovedAtOnce.answers, Rehearsal.Gives, RemovedAtOnce.service])
      (by simp [RemovedAtOnce.answers, Answered.KeepsMarkers])
  obtain ⟨rfl, -⟩ := hsame second result hsecond hgives
  exact ⟨second, hsecond, (hmarked _ rfl).1⟩

end RunnerRelease
