import RunnerRelease.Proofs.Pod.Status
import RunnerRelease.Release.Decision

/-!
# The evidence of a pod

A decision asks its pod for the two markers and for whether the runner has stopped. Pods that
agree in these get the same decision, whatever else they hold.

## Implementation notes

Equal decisions are equal procedures: they make the same calls, go on alike with every answer and
write the same log entries.
-/

namespace RunnerRelease

open Pod

variable {policy : Policy} {here there : Pod} {now : Instant}

/-- A judgement asks its pod only whether the runner has stopped and for the start marker. -/
theorem judge_eq_of_isStopped
    (hstopped : here.isStopped policy.container = there.isStopped policy.container)
    (hstart : here.annotated startMarker = there.annotated startMarker) :
    judge policy here now = judge policy there now := by
  rw [judge, judge, hstopped, hstart]

/-- A decision asks its pod only for the completion marker and for what judges it. -/
theorem decideRelease_eq_of_judge {scope : Scope} {runner : String}
    (hcomplete : here.annotated completeMarker = there.annotated completeMarker)
    (hjudge : judge policy here now = judge policy there now) :
    decideRelease policy scope runner (some here) now =
      decideRelease policy scope runner (some there) now := by
  simp only [decideRelease, Option.bind_some, hcomplete, hjudge]

/--
Nothing in the status of a pod but the phase and the present states of the containers of one name
tells whether the runner in them has stopped: pods that agree in the phase and, up to order, in
how these containers have ended, give the same answer. The answer is yes exactly if the phase is
`Succeeded` or one of these containers has ended with exit code zero. If such pods also agree in
their markers, a decision takes the same course for both at every time, whether or not the runner
is found.
-/
theorem decision_eq_of_terminations {one two : PodStatus} {container : String}
    (hhere : here.status = some one) (hthere : there.status = some two)
    (hphase : one.phase = two.phase)
    (hends : (one.terminations container).Perm (two.terminations container)) :
    here.isStopped container = there.isStopped container ∧
      (here.isStopped container = true ↔ one.phase = some "Succeeded" ∨
        ∃ entry ∈ one.containers.getD [], entry.name = container ∧
          ∃ state, entry.state = some state ∧
            ∃ termination, state.terminated = some termination ∧ termination.exitCode = 0) ∧
      ∀ policy : Policy, policy.container = container →
        here.annotated startMarker = there.annotated startMarker →
        here.annotated completeMarker = there.annotated completeMarker →
        ∀ (scope : Scope) (runner : String) (now : Instant),
          decideRelease policy scope runner (some here) now =
            decideRelease policy scope runner (some there) now := by
  have hstopped : here.isStopped container = there.isStopped container :=
    isStopped_eq_of_perm hhere hthere hphase hends
  refine ⟨hstopped, isStopped_iff hhere, ?_⟩
  rintro policy rfl hstart hcomplete scope runner now
  apply decideRelease_eq_of_judge hcomplete
  exact judge_eq_of_isStopped hstopped hstart

namespace KilledRunner

/-!
A runner that was killed after an earlier run had ended with exit code zero, and the same runner in
a later listing. Around it, a sidecar and a container that prepared the pod have ended with exit
code zero.
-/

def completed : Termination := { exitCode := 0, reason := some "Completed" }

def killed : Termination := { exitCode := 137, reason := some "OOMKilled", signal := some 9 }

def failed : Termination := { exitCode := 1, reason := some "Error" }

def ended (name : String) (termination : Termination) : ContainerStatus :=
  { name, state := some { terminated := some termination } }

def early : PodStatus where
  phase := some "Running"
  containers := some [
    ended "docker" completed,
    { ended "runner" killed with
      restartCount := 1, lastState := some { terminated := some completed } },
    ended "runner" failed]

def late : PodStatus where
  phase := some "Running"
  message := some "containers with unready status: [runner]"
  containers := some [
    ended "runner" failed,
    { name := "runner", ready := true, state := some { running := true } },
    ended "runner" killed]
  initContainers := some [ended "runner" completed]

def earlyPod : Pod where
  metadata := {
    resourceVersion := some "7"
    annotations := some (.ofList [(startMarker, "2024-03-01T05:00:00Z")]) }
  status := some early

def latePod : Pod where
  metadata := {
    resourceVersion := some "12"
    annotations := some (.ofList [("team", "ci"), (startMarker, "2024-03-01T05:00:00Z")]) }
  status := some late

end KilledRunner

/-- A killed runner has not stopped in either listing, and both get the same decisions. -/
theorem decision_eq_of_terminations_of_killed_runner :
    KilledRunner.earlyPod.isStopped "runner" = false ∧
      KilledRunner.latePod.isStopped "runner" = false ∧
      ∀ (scope : Scope) (runner : String) (now : Instant),
        decideRelease {} scope runner (some KilledRunner.earlyPod) now =
          decideRelease {} scope runner (some KilledRunner.latePod) now := by
  have hends : (KilledRunner.early.terminations "runner").Perm
      (KilledRunner.late.terminations "runner") := by decide
  obtain ⟨hsame, -, hdecided⟩ := @decision_eq_of_terminations KilledRunner.earlyPod
    KilledRunner.latePod KilledRunner.early KilledRunner.late "runner" rfl rfl rfl hends
  have hearly : KilledRunner.earlyPod.isStopped "runner" = false := by decide
  refine ⟨hearly, hsame ▸ hearly, ?_⟩
  exact hdecided {} rfl (by decide +kernel) (by decide +kernel)

end RunnerRelease
