import RunnerRelease.Time.Span

/-!
# Errors of the runner service

Why a call to the runner service failed.

## Implementation notes

A rate limit and a busy runner are kinds of their own, because a release reacts to
them differently from other refusals. Failures of the exchange itself are told
apart by how far it came.
-/

namespace RunnerRelease.GitHub

/-- How far an exchange came before it failed. -/
inductive Phase where
  /-- The request could not be put together. -/
  | builder
  /-- No response came. -/
  | request
  /-- The response could not be read. -/
  | decode
deriving DecidableEq, Repr

/-- Why a call to the runner service failed. -/
inductive Error where
  | http (phase : Phase)
  | api (status : Nat) (message : String)
  | rateLimited (resetIn : TimeSpan)
  | runnerBusy (message : String)
  | notConfigured (message : String)
deriving DecidableEq

/-- The wording of a failed phase. -/
def Phase.message : Phase → String
  | .builder => "builder error"
  | .request => "error sending request"
  | .decode => "error decoding response body"

namespace Error

/-- Whether the service refused a call for too many requests. -/
def isRateLimited : Error → Bool
  | .rateLimited _ => true
  | _ => false

/-- The wording of an error. -/
def message : Error → String
  | .http phase => "HTTP request failed: " ++ phase.message
  | .api status message => s!"GitHub API error: {status} - {message}"
  | .rateLimited resetIn => s!"GitHub API rate limit exceeded, reset in {resetIn.render}"
  | .runnerBusy message => s!"Runner is still running a job: {message}"
  | .notConfigured message => s!"Missing configuration: {message}"

end Error

end RunnerRelease.GitHub
