import RunnerRelease.Proofs.Procedure
import RunnerRelease.Rehearsal

/-!
# The answers of a rehearsal

A rehearsed procedure comes to its result by the prepared answers, and the calls that are
recorded are those that were answered.
-/

namespace RunnerRelease.Rehearsal

open Procedure

/-- The answer that is prepared for a call to the runner service. -/
def Gives (r : Rehearsal) : Answered → Prop
  | ⟨.listRunners _, answer⟩ => answer = r.listing
  | ⟨.removeRunner _ _, answer⟩ => answer = r.removal
  | _ => True

theorem gives_answer (r : Rehearsal) (c : Call) : r.Gives ⟨c, (answer c r).1⟩ := by
  cases c with
  | listRunners scope => rfl
  | removeRunner scope id => rfl
  | _ => trivial

/-- An answer that is given leaves the answers that are prepared. -/
theorem prepared_answer (r : Rehearsal) (c : Call) :
    (answer c r).2.listing = r.listing ∧ (answer c r).2.removal = r.removal := by
  cases c with
  | patchPod base updated =>
      simp only [answer]
      split <;> exact ⟨rfl, rfl⟩
  | _ => exact ⟨rfl, rfl⟩

theorem calls_answer (r : Rehearsal) (c : Call) : (answer c r).2.calls = r.calls ++ [c] := by
  cases c with
  | patchPod base updated =>
      simp only [answer]
      split <;> rfl
  | _ => rfl

theorem Gives.of_answer {r : Rehearsal} {c : Call} {answered : Answered}
    (h : Gives (answer c r).2 answered) : r.Gives answered := by
  obtain ⟨hlisting, hremoval⟩ := r.prepared_answer c
  obtain ⟨call, answer⟩ := answered
  cases call with
  | listRunners scope => exact Eq.trans h hlisting
  | removeRunner scope id => exact Eq.trans h hremoval
  | _ => trivial

/-- A rehearsal ends with the result that its answers lead to, and has recorded their calls. -/
theorem exists_yields_run {α : Type} (r : Rehearsal) (p : Procedure α) :
    ∃ answers, p.Yields answers (r.run p).1 ∧ (∀ a ∈ answers, r.Gives a) ∧
      (r.run p).2.calls = r.calls ++ answers.map Answered.call := by
  induction p generalizing r with
  | done result => exact ⟨[], .done result, by simp, (List.append_nil r.calls).symm⟩
  | log entry next ih =>
      obtain ⟨answers, hyields, hgives, hcalls⟩ := ih { r with log := r.log ++ [entry] }
      exact ⟨answers, .log hyields, hgives, hcalls⟩
  | call c resume ih =>
      obtain ⟨answers, hyields, hgives, hcalls⟩ := ih (answer c r).1 (answer c r).2
      refine ⟨⟨c, (answer c r).1⟩ :: answers, .call hyields, ?_, ?_⟩
      · rw [List.forall_mem_cons]
        exact ⟨r.gives_answer c, fun a ha => (hgives a ha).of_answer⟩
      · calc
          (run r (.call c resume)).2.calls =
              (run (answer c r).2 (resume (answer c r).1)).2.calls := rfl
          _ = r.calls ++ [c] ++ answers.map Answered.call := by rw [hcalls, r.calls_answer c]
          _ = r.calls ++ c :: answers.map Answered.call := by simp

end RunnerRelease.Rehearsal
