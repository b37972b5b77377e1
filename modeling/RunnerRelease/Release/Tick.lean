import RunnerRelease.Release.Decision

/-!
# Ticks

One step of a release: it does what can be done without waiting and otherwise says
when to come back.

## Implementation notes

The pod is marked before the services are asked and again once it may go, so the
progress of a release is in the pod alone and a step can be repeated at any time. A
marker that cannot be written ends the step at once.
-/

namespace RunnerRelease

/-- What a tick comes to. -/
inductive TickOutcome where
  /-- The pod may be deleted; it carries both markers. No pod was given where none is held. -/
  | safeToDelete (pod : Option Pod)
  | retry (advice : Retry)
deriving DecidableEq

/-- Marks a pod and yields it as it is stored then. -/
def mark (pod : Pod) (key timestamp stage : String) : Procedure (Except Failure Pod) := do
  match ← setIfAbsent pod key timestamp with
  | .ok (.present pod) =>
    Procedure.note {
      level := .info, source := .release
      message := s!"Runner has already {stage} unregistration" }
    return .ok pod
  | .ok (.written pod) =>
    Procedure.note {
      level := .info, source := .release, message := s!"Runner has {stage} unregistration" }
    return .ok pod
  | .error failure =>
    Procedure.note {
      level := .error, source := .release
      message := s!"Failed to patch pod to have {key} annotation"
      fields := [("error", failure.message)] }
    return .error failure

/-- Marks a pod if there is one. -/
def markIfAny (pod : Option Pod) (key timestamp stage : String) :
    Procedure (Except Failure (Option Pod)) :=
  match pod with
  | none => return .ok none
  | some pod => do
    match ← mark pod key timestamp stage with
    | .ok pod => return .ok (some pod)
    | .error failure => return .error failure

/-- Takes the release of a runner one step further. -/
def tick (policy : Policy) (scope : Scope) (runner : String) (pod : Option Pod)
    (now : Instant) : Procedure (Except Failure TickOutcome) := do
  let timestamp := Rfc3339.render now
  match ← markIfAny pod startMarker timestamp "started" with
  | .error failure => return .error failure
  | .ok pod =>
    match ← decideRelease policy scope runner pod now with
    | some retry => return .ok (.retry retry)
    | none =>
      match ← markIfAny pod completeMarker timestamp "completed" with
      | .error failure => return .error failure
      | .ok pod => return .ok (.safeToDelete pod)

end RunnerRelease
