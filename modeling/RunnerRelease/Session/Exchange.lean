import RunnerRelease.GitHub.Client
import RunnerRelease.Json.Printer
import RunnerRelease.Kubernetes.Client
import RunnerRelease.Procedure

/-!
# Exchanges

How a call is carried out over the wire: the requests that are sent for it, one at a
time, and the answer that their replies make up.

## Implementation notes

All calls take at most one request, except a listing, which asks for page after page.
How many it will ask for depends on the replies alone and is not bounded here: an
exchange is a state that takes one reply at a time.
-/

namespace RunnerRelease

open Http

/-- The clients by which calls are carried out, and the time their clock shows. -/
structure Connection where
  github : GitHub.Client
  kubernetes : Kubernetes.Client
  /-- The time in seconds since 1970. -/
  now : Int

/-- How far a call has come; only a listing takes more than one request. -/
abbrev Call.Progress : Call → Type
  | .listRunners _ => GitHub.Listing
  | _ => Unit

/-- What becomes of a call: it has been answered, or a request goes out for it. -/
inductive Exchange (c : Call) where
  | answered (answer : c.Answer)
  | sending (request : Request) (progress : c.Progress)

/-- The answer to a call for which a request was sent and no response came. -/
def Call.unanswered : (c : Call) → c.Answer
  | .listRunners _ => .error (.http .request)
  | .removeRunner _ _ => .error (.http .request)
  | .patchPod _ _ => .error (.kubernetes .noReply)
  | .getPod _ _ => .error .noReply
  | .deletePod _ _ => .error .noReply

namespace Exchange

/-- The entry that reports a refusal for too many requests, if a response is one. -/
def rateLimitEntries (now : Int) (r : Response) : List LogEntry :=
  match GitHub.rateLimitReset now r with
  | none => []
  | some resetIn => [{
      level := .warn, source := .runnerService
      message := s!"GitHub API rate limit exceeded, reset in {resetIn.render}"
      fields := [("status", statusText r.status)] }]

/-- Asks for the page of a listing that is due. -/
def listingStep (conn : Connection) (scope : Scope) (listing : GitHub.Listing) :
    Exchange (.listRunners scope) :=
  match conn.github.pageRequest scope listing.page with
  | .error error => .answered (.error error)
  | .ok request => .sending request listing

/-- Begins to carry out a call. -/
def start (conn : Connection) : (c : Call) → List LogEntry × Exchange c
  | .listRunners scope => ([], listingStep conn scope {})
  | .removeRunner scope id =>
    ([], match conn.github.removeRequest scope id with
      | .error error => .answered (.error error)
      | .ok request => .sending request ())
  | .patchPod base updated =>
    let patch := base.patchTo updated
    ([{ level := .debug, source := .podMarkers, message := "Patching runner pod"
        fields := [("pod", base.nameAny), ("patch", patch.render)] }],
      match Kubernetes.patchRequest (conn.kubernetes.namespaceOf base) base.nameAny
          patch with
      | none => .answered (.error (.kubernetes .invalidRequest))
      | some request => .sending request ())
  | .getPod «namespace» name =>
    ([], match Kubernetes.getRequest «namespace» name with
      | none => .answered (.error .invalidRequest)
      | some request => .sending request ())
  | .deletePod «namespace» name =>
    ([], match Kubernetes.deleteRequest «namespace» name with
      | none => .answered (.error .invalidRequest)
      | some request => .sending request ())

/-- Takes in the response to the request that was sent last for a call. -/
def receive (conn : Connection) (r : Response) :
    (c : Call) → c.Progress → List LogEntry × Exchange c
  | .listRunners scope, listing =>
    match GitHub.readPage conn.now r with
    | .error error => (rateLimitEntries conn.now r, .answered (.error error))
    | .ok page =>
      match listing.receive page with
      | .inl listing => ([], listingStep conn scope listing)
      | .inr runners =>
        ([{ level := .debug, source := .runnerService
            message := s!"Listed {runners.length} runners" }],
          .answered (.ok runners))
  | .removeRunner _ id, _ =>
    match GitHub.readRemoval conn.now r with
    | .error error => (rateLimitEntries conn.now r, .answered (.error error))
    | .ok () =>
      ([{ level := .debug, source := .runnerService, message := s!"Removed runner {id}" }],
        .answered (.ok ()))
  | .patchPod base _, _ => ([], .answered (Kubernetes.readPatched base.nameAny r))
  | .getPod _ _, _ => ([], .answered (Kubernetes.readPodIfAny r))
  | .deletePod _ _, _ => ([], .answered (Kubernetes.readDeleted r))

end Exchange

end RunnerRelease
