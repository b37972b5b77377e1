import RunnerRelease.Session.Basic

/-!
# Requests and replies as lines

The form in which requests are handed to a relay that delivers them, and in which it
hands back the replies: one line of JSON for each.

## Implementation notes

A line with a request names the service that it is for, since a request itself holds no
more than the path. A reply that cannot be read counts as no reply.
-/

namespace RunnerRelease.Relay

open Http

/-- The service that a call is made to. -/
def serviceName : Call → String
  | .listRunners _ | .removeRunner _ _ => "github"
  | .patchPod _ _ | .getPod _ _ | .deletePod _ _ => "kubernetes"

/-- The line for a request. -/
def requestLine (c : Call) (r : Request) : String :=
  Json.render (.object [
    ("request", .ofFields [
      ("body", r.body),
      ("headers", some (.array (r.headers.map fun (name, value) =>
        .array [.string name, .string value]))),
      ("method", some (.string r.method)),
      ("service", some (.string (serviceName c))),
      ("target", some (.string r.target))])])

/-- Reads a header field, given as a name and a value. -/
def header? (d : Document) : Option (String × Text.Bytes) := do
  match ← d.items? with
  | [name, value] => return (← name.string?, Text.toBytes (← value.string?))
  | _ => none

/-- Reads a response: its status, its header fields and its body. -/
def response? (d : Document) : Option Response := do
  match ← d.fields? ["status", "headers", "body"] with
  | [some status, headers, body] =>
    return {
      status := (← status.int? 100 599).toNat
      headers := (← Document.optional (listOf header?) headers).getD []
      body := Text.toBytes ((← Document.optional Document.string? body).getD "") }
  | _ => none

/-- The reply that a line stands for. -/
def replyOfLine (line : String) : Reply := (Json.parse line).bind response?

end RunnerRelease.Relay
