import RunnerRelease.GitHub.Error
import RunnerRelease.Kubernetes.Failure
import RunnerRelease.Time.Rfc3339

/-!
# Failures of a release

Everything that can go wrong with a release, with the wording under which it is
reported.
-/

namespace RunnerRelease

/-- Why a step of a release failed. -/
inductive Failure where
  | kubernetes (failure : Kubernetes.Failure)
  /-- The pod changed between reading and patching. -/
  | conflict (pod : String)
  | github (error : GitHub.Error)
  /-- A progress marker holds something other than a timestamp. -/
  | invalidMarker (key value : String) (fault : Rfc3339.Fault)
  | invalidScope (message : String)
  | invalidPolicy (message : String)
deriving DecidableEq

namespace Failure

/-- Whether the runner service refused a call for too many requests. -/
def isRateLimited : Failure → Bool
  | .github error => error.isRateLimited
  | _ => false

/-- The time after which a step that failed may be repeated: at once. -/
def repeatAfter (_ : Failure) : TimeSpan := .zero

/-- The wording of a failure. -/
def message : Failure → String
  | .kubernetes failure => "Kubernetes API error: " ++ failure.message
  | .conflict pod => s!"Pod {pod} was modified concurrently, patch rejected"
  | .github error => error.message
  | .invalidMarker key value fault =>
    s!"Invalid timestamp '{value}' in annotation {key}: {fault.message}"
  | .invalidScope message => s!"Invalid runner scope: {message}"
  | .invalidPolicy message => s!"Configuration error: {message}"

end Failure

end RunnerRelease
