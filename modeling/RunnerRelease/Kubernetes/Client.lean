import RunnerRelease.Http.Message
import RunnerRelease.Json.Parser
import RunnerRelease.Kubernetes.Failure
import RunnerRelease.Failure
import RunnerRelease.Pod.Patch

/-!
# The cluster over the wire

Requests for pods to the API server of the cluster and the meaning of its responses.

## Implementation notes

A status from 400 to 599 is a refusal. If the body is an account of it, that account
counts, its code included, whatever the status says; otherwise the body as a whole is
the message. Names go into the path as they are: what a path cannot hold makes the
request fail before it is sent, and what would start a query or a fragment does so.
-/

namespace RunnerRelease.Kubernetes

open Http Text

/-- A client of the API server. -/
structure Client where
  /-- The namespace of pods that name none. -/
  defaultNamespace : String
deriving DecidableEq

/-- A character that may stand in a path. -/
def isPathChar (c : Char) : Bool :=
  let n := c.toNat
  n == 0x21 || (0x24 ≤ n && n ≤ 0x3B) || n == 0x3D || (0x40 ≤ n && n ≤ 0x5F) ||
    (0x61 ≤ n && n ≤ 0x7A) || n == 0x7C || 0x7E ≤ n || c == '\x22' || c == '{' || c == '}'

/-- A character that may stand in a query. -/
def isQueryChar (c : Char) : Bool :=
  let n := c.toNat
  n == 0x21 || (0x24 ≤ n && n ≤ 0x3B) || n == 0x3D || 0x3F ≤ n

/-- The longest path that can be sent, in bytes. -/
def longestPath : Nat := 65534

/-- The path that a text spells, up to a fragment; absent when it is none. -/
def target? (text : String) : Option String :=
  let cs := text.toList.takeWhile (· != '#')
  let (path, query) := cs.span (· != '?')
  if path.all isPathChar && query.all isQueryChar && text.utf8ByteSize ≤ longestPath then
    some (.ofList cs)
  else none

/-- The path of a pod; the name must not be empty. -/
def podTarget? («namespace» name : String) : Option String :=
  if name.isEmpty then none
  else
    let scope := if «namespace».isEmpty then "" else "namespaces/" ++ «namespace» ++ "/"
    target? ("/api/v1/" ++ scope ++ "pods/" ++ name)

/-- The request for a pod. -/
def getRequest («namespace» name : String) : Option Request :=
  (podTarget? «namespace» name).map fun target => { method := "GET", target, headers := [] }

/-- The request for the change of a pod by a merge patch. -/
def patchRequest («namespace» name : String) (patch : Json) : Option Request :=
  (podTarget? «namespace» name).map fun target => {
    method := "PATCH", target
    headers := [("accept", "application/json"), ("content-type", "application/merge-patch+json")]
    body := some patch }

/-- The request for the deletion of a pod, without any options. -/
def deleteRequest («namespace» name : String) : Option Request :=
  (podTarget? «namespace» name).map fun target => {
    method := "DELETE", target
    headers := [("content-type", "application/json")]
    body := some (.object []) }

/-- The namespace in which a pod is looked for. -/
def Client.namespaceOf (client : Client) (pod : Pod) : String :=
  pod.metadata.namespace.getD client.defaultNamespace

/-- Reads the server's account of a refusal. -/
def refusal? (d : Document) : Option Refusal := do
  match ← d.record? ["status", "message", "reason", "code"] with
  | [some status, message, reason, some code] =>
    return {
      status := ← status.string?
      message := ← message.elim (some "") Document.string?
      reason := ← reason.elim (some "") Document.string?
      code := (← code.int? 0 65535).toNat }
  | _ => none

/-- The refusal that a body stands for: the account it gives, or itself. -/
def refusalOf (status : Nat) (body : String) : Refusal :=
  match (Json.parse body).bind refusal? with
  | some refusal => refusal
  | none => {
      status := statusText status
      message := quoted body
      reason := "Failed to parse error data"
      code := status }

/-- The body of a response that grants the request, or why there is none. -/
def grantedBody (r : Response) : Except Failure String :=
  match r.text? with
  | none => .error .invalidReply
  | some body => if r.isFailure then .error (.refused (refusalOf r.status body)) else .ok body

/-- The pod that a body holds. -/
def bodyPod? (body : String) : Option Pod := (Json.parse body).bind Pod.ofDocument?

/-- What a response to the request for a pod or for its change means. -/
def readPod (r : Response) : Except Failure Pod :=
  match grantedBody r with
  | .error failure => .error failure
  | .ok body =>
    match bodyPod? body with
    | some pod => .ok pod
    | none => .error .invalidReply

/-- What a response to the request for a pod that may not exist means. -/
def readPodIfAny (r : Response) : Except Failure (Option Pod) :=
  match readPod r with
  | .ok pod => .ok (some pod)
  | .error (.refused refusal) =>
    if refusal.reason = "NotFound" then .ok none else .error (.refused refusal)
  | .error failure => .error failure

/-- The failure of a change: a conflict when the code of the refusal says so. -/
def patchFailure (name : String) : Failure → RunnerRelease.Failure
  | .refused refusal =>
    if refusal.code = 409 then .conflict name else .kubernetes (.refused refusal)
  | failure => .kubernetes failure

/-- What a response to the change of a pod with the given name means. -/
def readPatched (name : String) (r : Response) : Except RunnerRelease.Failure Pod :=
  match readPod r with
  | .ok pod => .ok pod
  | .error failure => .error (patchFailure name failure)

/-- Whether a body reports that something was done. -/
def isStatusReport (d : Document) : Bool :=
  match d.fields? ["kind", "status", "code", "message", "reason"] with
  | some [some kind, status, code, message, reason] =>
    kind.string? == some "Status" &&
      (Document.present status).all (fun s =>
        s.string? == some "Success" || s.string? == some "Failure") &&
      code.all (fun c => (c.int? 0 65535).isSome) &&
      message.all (fun m => m.string?.isSome) && reason.all (fun m => m.string?.isSome)
  | _ => false

/-- What a response to the request for a deletion means. -/
def readDeleted (r : Response) : Except Failure Unit :=
  match grantedBody r with
  | .error failure => .error failure
  | .ok body =>
    if ((Json.parse body).any isStatusReport) || (bodyPod? body).isSome then .ok ()
    else .error .invalidReply

end RunnerRelease.Kubernetes
