import RunnerRelease.Pod.Basic

/-!
# Stopped runners

Whether a runner has stopped is told by the phase of its pod and by how the containers of its
name have ended. Other containers have no say, nor have earlier runs of a container that was
restarted, nor has the order in which the containers are listed.

## Implementation notes

Names may be repeated in a list of containers, so a name stands for a list of terminations, in
which a termination may be repeated as well. A list that is not given counts as an empty one.
-/

namespace RunnerRelease

/-- The terminations of the containers of a name, as far as these have ended, in their order. -/
def PodStatus.terminations (status : PodStatus) (container : String) : List Termination :=
  ((status.containers.getD []).filter fun entry => entry.name == container).filterMap fun entry =>
    entry.state.bind fun state => state.terminated

theorem PodStatus.mem_terminations_iff {status : PodStatus} {container : String}
    {termination : Termination} :
    termination ∈ status.terminations container ↔
      ∃ entry ∈ status.containers.getD [], entry.name = container ∧
        ∃ state, entry.state = some state ∧ state.terminated = some termination := by
  simp [terminations, and_assoc, Option.bind_eq_some_iff]

namespace Pod

variable {here there pod : Pod} {one two status : PodStatus} {container : String}

/-- A container of a name has succeeded exactly if one of the terminations has exit code zero. -/
theorem any_containerSucceeded (status : PodStatus) (container : String) :
    (status.containers.getD []).any (containerSucceeded container) =
      (status.terminations container).any fun termination => termination.exitCode == 0 := by
  rw [PodStatus.terminations, List.any_filterMap, List.any_filter]
  rfl

/-- Whether a runner has stopped is read off the phase and the terminations. -/
theorem isStopped_eq (h : pod.status = some status) :
    pod.isStopped container = (status.phase == some "Succeeded" ||
      (status.terminations container).any fun termination => termination.exitCode == 0) := by
  rw [isStopped, h, Option.any_some, any_containerSucceeded]

/-- The phase and the terminations, in whatever order, tell whether a runner has stopped. -/
theorem isStopped_eq_of_perm (hhere : here.status = some one) (hthere : there.status = some two)
    (hphase : one.phase = two.phase)
    (hends : (one.terminations container).Perm (two.terminations container)) :
    here.isStopped container = there.isStopped container := by
  rw [isStopped_eq hhere, isStopped_eq hthere, hphase, hends.any_eq]

/-- A runner has stopped exactly if its pod has succeeded or a container of its name has. -/
theorem isStopped_iff (h : pod.status = some status) :
    pod.isStopped container = true ↔ status.phase = some "Succeeded" ∨
      ∃ entry ∈ status.containers.getD [], entry.name = container ∧
        ∃ state, entry.state = some state ∧
          ∃ termination, state.terminated = some termination ∧ termination.exitCode = 0 := by
  rw [isStopped_eq h, Bool.or_eq_true, beq_iff_eq, List.any_eq_true]
  refine or_congr_right ⟨?_, ?_⟩
  · rintro ⟨termination, hmem, hcode⟩
    obtain ⟨entry, hentry, hname, state, hstate, hended⟩ := PodStatus.mem_terminations_iff.1 hmem
    exact ⟨entry, hentry, hname, state, hstate, termination, hended, beq_iff_eq.1 hcode⟩
  · rintro ⟨entry, hentry, hname, state, hstate, termination, hended, hcode⟩
    have hmem := PodStatus.mem_terminations_iff.2 ⟨entry, hentry, hname, state, hstate, hended⟩
    exact ⟨termination, hmem, beq_iff_eq.2 hcode⟩

end Pod

end RunnerRelease
