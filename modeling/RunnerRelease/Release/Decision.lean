import RunnerRelease.Pod.Marker
import RunnerRelease.Policy.Basic
import RunnerRelease.Release.Unregistration

/-!
# The decision to release

Whether the pod of a runner may be deleted now, or when to ask again.

## Implementation notes

A pod with the completion marker has been decided upon before, and the services are
not asked. Otherwise the runner is unregistered. Only where no registration was
found and a pod exists does the pod itself decide: `judge` tells apart the runner
that ended, the one that is waited for and the one that has had its time.
-/

namespace RunnerRelease

/-- The advice to ask again, no sooner than after some time. -/
structure Retry where
  after : TimeSpan
  /-- What stood in the way of a decision. -/
  failure : Option Failure := none
deriving DecidableEq

/-- The text of the order to a scheduler to come back after some time. -/
def requeueText (after : TimeSpan) : String :=
  s!"Action \x7b requeue_after: Some({after.render}) \x7d"

/-- What a pod says about a registration that is missing. -/
inductive Judgement where
  /-- The runner has ended with success, and with it its registration. -/
  | stopped
  /-- Nothing says when the release began. -/
  | unmarked
  /-- What says when the release began is no timestamp. -/
  | unreadable (value : String) (fault : Rfc3339.Fault)
  /-- The runner may still register; the time left is known unless it cannot be told. -/
  | waiting (remaining : Option TimeSpan)
  /-- The runner has had its time. -/
  | elapsed
deriving DecidableEq

/-- When a missing registration that began to be waited for at an instant is given up. -/
def Policy.deadline? (policy : Policy) (started : Instant) : Option Instant :=
  started.add? policy.timeout.toNat

/-- What a pod says about a registration that is missing. -/
def judge (policy : Policy) (pod : Pod) (now : Instant) : Judgement :=
  if pod.isStopped policy.container then .stopped
  else
    match pod.annotated startMarker with
    | none => .unmarked
    | some value =>
      match Rfc3339.parse value with
      | .error fault => .unreadable value fault
      | .ok started =>
        match policy.deadline? started with
        | none => .waiting none
        | some deadline =>
          if deadline ≤ now then .elapsed else .waiting (now.spanUntil? deadline)

namespace Judgement

/-- The advice that follows from a judgement; none means that the pod may go. -/
def retry (policy : Policy) : Judgement → Option Retry
  | .stopped => none
  | .unmarked => some { after := policy.retrySpan }
  | .unreadable value fault =>
    some { after := policy.retrySpan, failure := some (.invalidMarker startMarker value fault) }
  | .waiting _ => some { after := policy.retrySpan }
  | .elapsed => none

/-- How an optional span is shown. -/
def renderSpan : Option TimeSpan → String
  | none => "None"
  | some span => s!"Some({span.render})"

/-- The log entry that reports a judgement. -/
def entry (policy : Policy) : Judgement → LogEntry
  | .stopped => {
      level := .info, source := .release
      message := "Runner pod has been stopped with a successful status" }
  | .unmarked => {
      level := .debug, source := .release
      message := "Runner unregistration is being retried later" }
  | .unreadable value fault => {
      level := .warn, source := .release
      message := "Cannot tell how long unregistration has been running"
      fields := [("error", (Failure.invalidMarker startMarker value fault).message)] }
  | .waiting remaining => {
      level := .info, source := .release
      message := "Runner unregistration is in progress"
      fields := [("timeout", policy.timeoutSpan.render), ("remaining", renderSpan remaining)] }
  | .elapsed => {
      level := .info, source := .release
      message := "Runner unregistration has timed out. The runner pod will be deleted soon"
      fields := [("timeout", policy.timeoutSpan.render)] }

end Judgement

/-- The advice that follows from an error of the runner service, and its log entry. -/
def onServiceError (policy : Policy) (error : GitHub.Error) : LogEntry × Retry :=
  let failure := Failure.github error
  if failure.isRateLimited then
    let delay := policy.rateLimitSpan
    ({ level := .error, source := .release
       message := "Failed to unregister runner due to GitHub API rate limits. " ++
         s!"Delaying retry for {delay.render} to avoid excessive GitHub API calls"
       fields := [("error", failure.message)] },
      { after := delay, failure := some failure })
  else
    ({ level := .error, source := .release
       message := "Failed to unregister runner before deleting the pod"
       fields := [("error", failure.message)] },
      { after := .zero, failure := some failure })

/-- Decides whether the pod may be deleted now; none means that it may. -/
def decideRelease (policy : Policy) (scope : Scope) (runner : String) (pod : Option Pod)
    (now : Instant) : Procedure (Option Retry) := do
  if (pod.bind (·.annotated completeMarker)).isSome then
    Procedure.note {
      level := .info, source := .release
      message := "Runner pod is marked as already unregistered" }
    return none
  match ← unregister scope runner with
  | .error error =>
    let (entry, retry) := onServiceError policy error
    Procedure.note entry
    return some retry
  | .ok (.removed id) =>
    Procedure.note {
      level := .info, source := .release
      message := "Runner has just been unregistered. Removing the runner pod"
      fields := [("runner_id", toString id)] }
    return none
  | .ok .notFound =>
    match pod with
    | none =>
      Procedure.note {
        level := .info, source := .release
        message := "Runner was not found on GitHub and the runner pod was not found on Kubernetes" }
      return none
    | some pod =>
      let judgement := judge policy pod now
      Procedure.note (judgement.entry policy)
      return judgement.retry policy

end RunnerRelease
