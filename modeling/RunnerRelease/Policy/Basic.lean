import RunnerRelease.Text.Blank
import RunnerRelease.Time.Span
import RunnerRelease.Json.Basic

/-!
# Release policy

The times by which the release of a runner is governed and the name of the
container that runs it.

## Implementation notes

Every policy can be used, whether `check` accepts it or not. In particular
`rateLimitSpan` stays above the retry delay for all values of the fields: it is at
least twice that delay, and where doubling saturates it is the longest span, which
no whole number of seconds reaches.
-/

namespace RunnerRelease

/-- The times that govern a release, in seconds, and the runner's container. -/
structure Policy where
  /-- How long a missing registration is waited for. -/
  timeout : UInt64 := 60
  /-- Delay before the next attempt while the registration is unresolved. -/
  retryDelay : UInt64 := 30
  /-- Delay before the next attempt after a refusal for too many requests. -/
  rateLimitDelay : UInt64 := 300
  /-- The container whose success means that the runner has ended by itself. -/
  container : String := "runner"
deriving DecidableEq

namespace Policy

instance : Inhabited Policy := ⟨{}⟩

/-- What `check` finds wrong with a policy. -/
inductive Problem where
  | zeroTimeout
  | zeroRetryDelay
  | shortRateLimitDelay (rateLimitDelay retryDelay : UInt64)
  | blankContainer
deriving DecidableEq

/-- The wording of a problem. -/
def Problem.message : Problem → String
  | .zeroTimeout => "unregistrationTimeoutSeconds must be greater than zero"
  | .zeroRetryDelay => "unregistrationRetryDelaySeconds must be greater than zero"
  | .shortRateLimitDelay limit retry =>
    s!"rateLimitRetryDelaySeconds ({limit}) must be greater than " ++
      s!"unregistrationRetryDelaySeconds ({retry})"
  | .blankContainer => "runnerContainerName must not be empty"

/-- Accepts a policy with positive times, a longer delay for rate limits and a container name. -/
def check (p : Policy) : Except Problem Unit :=
  if p.timeout = 0 then .error .zeroTimeout
  else if p.retryDelay = 0 then .error .zeroRetryDelay
  else if p.rateLimitDelay ≤ p.retryDelay then
    .error (.shortRateLimitDelay p.rateLimitDelay p.retryDelay)
  else if Text.isBlankText p.container then .error .blankContainer
  else .ok ()

/-- How long a missing registration is waited for. -/
def timeoutSpan (p : Policy) : TimeSpan := .ofSeconds p.timeout

/-- Delay before the next attempt while the registration is unresolved. -/
def retrySpan (p : Policy) : TimeSpan := .ofSeconds p.retryDelay

/--
Delay before the next attempt after a refusal for too many requests: the delay asked
for, but at least twice the retry delay and at least a second.
-/
def rateLimitSpan (p : Policy) : TimeSpan :=
  max (.ofSeconds p.rateLimitDelay) (max p.retrySpan.double (.ofSeconds 1))

/-- The names of the fields in written policies, in key order. -/
def rateLimitKey : String := "rateLimitRetryDelaySeconds"

@[inherit_doc rateLimitKey]
def containerKey : String := "runnerContainerName"

@[inherit_doc rateLimitKey]
def retryKey : String := "unregistrationRetryDelaySeconds"

@[inherit_doc rateLimitKey]
def timeoutKey : String := "unregistrationTimeoutSeconds"

/-- The policy as a JSON object. -/
def toJson (p : Policy) : Json :=
  .object [
    (rateLimitKey, .int p.rateLimitDelay.toNat),
    (containerKey, .string p.container),
    (retryKey, .int p.retryDelay.toNat),
    (timeoutKey, .int p.timeout.toNat)]

end Policy

end RunnerRelease
