import RunnerRelease.Proofs.Drain.Preparation
import RunnerRelease.Proofs.Release.Course
import RunnerRelease.Proofs.Session.Sequence

/-!
# What a round sends

A round of the drain sends a request for the pod, then what its tick sends, and last of all,
where the tick has let a pod go and nothing forbids it, one request for the deletion of the pod.

## Implementation notes

A tick and what follows it are run one after the other by `run_bind`. The deletion is asked for
whatever replies the tick has left over, so these need not be counted. What follows a tick is seen
through `Concludes`, for what a round says in its log entries does not matter here.
-/

namespace RunnerRelease

open Http Procedure

/-- A tick calls the runner service, and the cluster for patches alone. -/
theorem Ticks.calls {policy : Policy} {scope : Scope} {runner : String} {pod : Option Pod}
    {now : Instant} {answers : List Answered} {result : Except Failure TickOutcome}
    (h : Ticks policy scope runner pod now answers result) :
    ∀ a ∈ answers, a.call.isPatch ∨ a.call.isToRunnerService := by
  have hmarks {key : String} {held : Option Pod} {some : List Answered}
      {marked : Except Failure (Option Pod)}
      (hmarks : MarksIfAny key (Rfc3339.render now) held some marked) :
      ∀ a ∈ some, a.call.isPatch ∨ a.call.isToRunnerService :=
    fun a ha => .inl (hmarks.exists_markerPatch a ha).1
  have hdecides {held : Option Pod} {some : List Answered} {advice : Option Retry}
      (hdecide : Decides policy scope runner held now some advice) :
      ∀ a ∈ some, a.call.isPatch ∨ a.call.isToRunnerService :=
    fun a ha => .inr (hdecide.isToRunnerService a ha)
  cases h with
  | unstarted hstart => exact hmarks hstart
  | advised hstart hdecide => exact List.forall_mem_append.2 ⟨hmarks hstart, hdecides hdecide⟩
  | completed hstart hdecide hcomplete =>
      exact List.forall_mem_append.2
        ⟨List.forall_mem_append.2 ⟨hmarks hstart, hdecides hdecide⟩, hmarks hcomplete⟩

/-- Whether a call asks for the deletion of a pod. -/
def Call.isDeletion : Call → Bool
  | .deletePod _ _ => true
  | _ => false

theorem Ticks.not_isDeletion {policy : Policy} {scope : Scope} {runner : String}
    {pod : Option Pod} {now : Instant} {answers : List Answered}
    {result : Except Failure TickOutcome}
    (h : Ticks policy scope runner pod now answers result) :
    ∀ a ∈ answers, ¬ a.call.isDeletion := by
  intro a ha
  have hkind := h.calls a ha
  revert hkind
  cases a.call <;> simp [Call.isPatch, Call.isToRunnerService, Call.isDeletion]

/-- No tick asks for the deletion of a pod. -/
theorem not_isDeletion_of_tick {conn : Connection} {policy : Policy} {scope : Scope}
    {runner : String} {pod : Option Pod} {now : Instant} {replies : List Reply} {c : Call}
    (h : c ∈ Event.calls (Session.run conn (tick policy scope runner pod now) replies).events) :
    ¬ c.isDeletion := by
  obtain ⟨answers, hyields, hcarries⟩ :=
    Session.accounts_run conn (tick policy scope runner pod now) replies
  rw [← calls_exchanged _ replies, List.mem_map] at h
  obtain ⟨x, hx, rfl⟩ := h
  obtain ⟨a, ha, hcall⟩ := hcarries.exists_call hx
  rw [← hcall]
  exact (ticks_of_yields hyields).not_isDeletion a ha

namespace Drain

/-- What the reply to the request for a pod says. -/
def podIn (reply : Reply) : Except Kubernetes.Failure (Option Pod) :=
  reply.elim (.error .noReply) Kubernetes.readPodIfAny

/-- Whether the result of a tick lets a pod go. -/
def releases : Except Failure TickOutcome → Bool
  | .ok (.safeToDelete (some _)) => true
  | _ => false

/-- How a round ends after its tick: by the deletion of a pod that is let go, or without a call. -/
inductive Concludes (job : Job) : Except Failure TickOutcome → Procedure Round → Prop
  | letGo (pod : Pod) : Concludes job (.ok (.safeToDelete (some pod))) (letGo job pod)
  | silent {found : Except Failure TickOutcome} {p : Procedure Round}
      (h : releases found = false) (hsilent : Session.Silent p) : Concludes job found p

/-- A round is a request for the pod, a tick, and what ends it. -/
theorem exists_concludes (job : Job) (now : Instant) :
    ∃ (failed : Kubernetes.Failure → Round)
      (conclude : Except Failure TickOutcome → Procedure Round),
      (round job now = .call (.getPod job.namespace job.pod) fun
        | .error failure => .done (failed failure)
        | .ok pod => (tick job.policy job.scope job.runner pod now).bind conclude) ∧
      ∀ found, Concludes job found (conclude found) := by
  refine ⟨_, _, rfl, ?_⟩
  intro found
  cases found with
  | error failure => exact .silent rfl trivial
  | ok outcome =>
      cases outcome with
      | retry advice =>
          apply Concludes.silent rfl
          dsimp only
          cases advice.failure with
          | none => trivial
          | some failure => trivial
      | safeToDelete held =>
          cases held with
          | none => exact .silent rfl trivial
          | some pod => exact .letGo pod

variable {conn : Connection} {job : Job} {get delete : Request}

theorem requests_letGo
    (hdelete : Kubernetes.deleteRequest job.namespace job.pod = some delete) (pod : Pod)
    (replies : List Reply) :
    Event.requests (Session.run conn (letGo job pod) replies).events =
      if job.dryRun then [] else [delete] := by
  rw [letGo]
  by_cases hdry : job.dryRun = true
  · rw [if_pos hdry, if_pos hdry]
    exact Session.requests_run_of_silent (by trivial) replies
  · have hstart : Exchange.start conn (.deletePod job.namespace job.pod) =
        ([], .sending delete ()) := by
      rw [Exchange.start, hdelete]
    rw [if_neg hdry, if_neg hdry]
    change Event.requests (Session.run conn (.call _ _) replies).events = [delete]
    rw [Session.run_call_of_single hstart fun _ => rfl, Session.Outcome.requests_after,
      Session.requests_run_of_silent]
    · rfl
    · generalize Exchanged.reading _ _ = deleted
      cases deleted with
      | error failure => trivial
      | ok _ => trivial

/-- After its tick a round deletes the pod that the tick lets go, if that is not to be kept. -/
theorem Concludes.requests_run {found : Except Failure TickOutcome} {p : Procedure Round}
    (h : Concludes job found p)
    (hdelete : Kubernetes.deleteRequest job.namespace job.pod = some delete)
    (replies : List Reply) :
    Event.requests (Session.run conn p replies).events =
      if releases found && !job.dryRun then [delete] else [] := by
  cases h with
  | letGo pod =>
      rw [requests_letGo hdelete]
      cases job.dryRun <;> rfl
  | silent hkept hsilent =>
      rw [Session.requests_run_of_silent hsilent, hkept]
      rfl

theorem start_getPod (hget : Kubernetes.getRequest job.namespace job.pod = some get) :
    Exchange.start conn (.getPod job.namespace job.pod) = ([], .sending get ()) := by
  rw [Exchange.start, hget]

theorem reading_getPod («namespace» name : String) (request : Request) (reply : Reply)
    (clock : Int) :
    (⟨.getPod «namespace» name, request, reply⟩ : Exchanged).reading clock = podIn reply := by
  cases reply <;> rfl

/-- A round that cannot have the pod sends nothing more. -/
theorem requests_round_of_error {failure : Kubernetes.Failure} {replies : List Reply}
    (hget : Kubernetes.getRequest job.namespace job.pod = some get)
    (hpod : podIn replies.head?.join = .error failure) (now : Instant) :
    Event.requests (Session.run conn (round job now) replies).events = [get] := by
  obtain ⟨failed, conclude, hround, -⟩ := exists_concludes job now
  rw [hround, Session.run_call_of_single (start_getPod hget) fun _ => rfl,
    Session.Outcome.requests_after, reading_getPod, hpod,
    Session.requests_run_of_silent (by trivial)]
  rfl

/-- With the pod it sends what its tick sends, and the deletion of a pod that the tick lets go. -/
theorem requests_round_of_ok {pod : Option Pod} {now : Instant} {replies : List Reply}
    {ticked : Session.Outcome (Except Failure TickOutcome)}
    (hget : Kubernetes.getRequest job.namespace job.pod = some get)
    (hdelete : Kubernetes.deleteRequest job.namespace job.pod = some delete)
    (hpod : podIn replies.head?.join = .ok pod)
    (hticked : Session.run conn (tick job.policy job.scope job.runner pod now) replies.tail =
      ticked) :
    Event.requests (Session.run conn (round job now) replies).events =
      get :: Event.requests ticked.events ++
        if releases ticked.result && !job.dryRun then [delete] else [] := by
  obtain ⟨failed, conclude, hround, hconclude⟩ := exists_concludes job now
  rw [hround, Session.run_call_of_single (start_getPod hget) fun _ => rfl,
    Session.Outcome.requests_after, reading_getPod, hpod]
  dsimp only
  rw [Session.run_bind, Session.Outcome.requests_andThen, hticked,
    (hconclude ticked.result).requests_run hdelete]
  rfl

end Drain

end RunnerRelease
