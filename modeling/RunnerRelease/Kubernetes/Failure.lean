import RunnerRelease.Text.Quoted

/-!
# Failures of the cluster

Why a call to the API server of the cluster failed: the server refused it and said
why, or there was no exchange that could be understood.
-/

namespace RunnerRelease.Kubernetes

/-- The server's own account of a refusal. -/
structure Refusal where
  status : String
  message : String
  reason : String
  code : Nat
deriving DecidableEq, Repr

/-- Why a call to the API server failed. -/
inductive Failure where
  | refused (refusal : Refusal)
  /-- The request could not be put together. -/
  | invalidRequest
  /-- No response came. -/
  | noReply
  /-- The response could not be read. -/
  | invalidReply
deriving DecidableEq, Repr

/-- The wording of a refusal, followed by all that the server said. -/
def Refusal.text (r : Refusal) : String :=
  s!"ApiError: {r.message}: {r.reason} (ErrorResponse \x7b status: " ++ Text.quoted r.status ++
    ", message: " ++ Text.quoted r.message ++ ", reason: " ++ Text.quoted r.reason ++
    s!", code: {r.code} \x7d)"

/-- The wording of a failure. -/
def Failure.message : Failure → String
  | .refused refusal => refusal.text
  | .invalidRequest => "Error building request"
  | .noReply => "ServiceError: client error (Connect)"
  | .invalidReply => "Error deserializing response"

end RunnerRelease.Kubernetes
