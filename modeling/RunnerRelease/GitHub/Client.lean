import RunnerRelease.GitHub.Error
import RunnerRelease.GitHub.Runner
import RunnerRelease.Http.Message
import RunnerRelease.Http.Url
import RunnerRelease.Json.Parser
import RunnerRelease.Scope
import RunnerRelease.Text.Blank

/-!
# The runner service over the wire

Requests to the runner service and the meaning of its responses.

## Implementation notes

Every response is first asked whether it refuses the request for too many requests;
only then do the calls differ. The time until such a refusal ends is what the response
says, a minute where it does not say, and never negative. A request can fail before
it is sent, because of an address or a token that cannot go into a request.

The time until a refusal ends is taken as a difference without bounds. One that is said
to have ended so long ago that the difference leaves the range of 64 bits is over, like
any other that has ended.
-/

namespace RunnerRelease.GitHub

open Http Text

/-- How the runner service is reached. -/
structure Settings where
  baseUrl : String := "https://api.github.com"
  token : String
  userAgent : String := "cto-runner-controller/1.0"
  timeout : TimeSpan := .ofSeconds 30
deriving DecidableEq

/--
The settings that the environment gives: a token, which must not be blank, and the
address of the service unless that is blank or not a text.
-/
def Settings.ofEnvironment (token address : Option Bytes) : Except Error Settings :=
  let given (value : Option Bytes) := (value.bind decode?).filter fun s => !isBlankText s
  match given token with
  | none => .error (.notConfigured "GITHUB_TOKEN is not set")
  | some token =>
    match given address with
    | none => .ok { token }
    | some baseUrl => .ok { token, baseUrl }

/-- A client of the runner service. -/
structure Client where
  baseUrl : String
  token : String
  userAgent : String
deriving DecidableEq

/-- A client with the given settings, whose user agent must be fit for a header field. -/
def Client.ofSettings (s : Settings) : Except Error Client :=
  if isHeaderValue s.userAgent then
    .ok {
      baseUrl := .ofList ((s.baseUrl.toList.reverse.dropWhile (· == '/')).reverse)
      token := s.token
      userAgent := s.userAgent }
  else .error (.http .builder)

/-- The number of registrations that a page is asked to hold. -/
def runnersPerPage : Nat := 100

namespace Client

/-- The address of the registrations of a scope. -/
def runnersUrl (client : Client) (scope : Scope) : String :=
  client.baseUrl ++ "/" ++ scope.apiPath ++ "/actions/runners"

/-- A request to an address, with what every request carries. -/
def request (client : Client) (method : String) (url : Url) : Except Error Request :=
  let bearer := "Bearer " ++ client.token
  if isHeaderValue bearer && url.size ≤ Url.longest then
    .ok {
      method, target := url.target
      headers := [
        ("accept", "application/vnd.github+json"),
        ("authorization", bearer),
        ("user-agent", client.userAgent),
        ("x-github-api-version", "2022-11-28")] }
  else .error (.http .builder)

/-- The request for a page of the registrations of a scope. -/
def pageRequest (client : Client) (scope : Scope) (page : Nat) : Except Error Request :=
  match Url.parse? (client.runnersUrl scope) with
  | none => .error (.http .builder)
  | some url =>
    client.request "GET" (url.addQuery
      [("per_page", toString runnersPerPage), ("page", toString page)])

/-- The request for the removal of a registration. -/
def removeRequest (client : Client) (scope : Scope) (id : Int) : Except Error Request :=
  match Url.parse? (client.runnersUrl scope ++ "/" ++ toString id) with
  | none => .error (.http .builder)
  | some url => client.request "DELETE" url

end Client

/-- The time until requests are granted again, when nothing is said about it. -/
def fallbackReset : TimeSpan := .ofSeconds 60

/--
The time from now until an instant in seconds since 1970, nothing when it is over, however long
ago that was.
-/
def timeUntil (now reset : Int) : TimeSpan := .ofSeconds (UInt64.ofNat (reset - now).toNat)

/-- The time after which a request refused for too many requests may be repeated. -/
def rateLimitReset (now : Int) (r : Response) : Option TimeSpan :=
  if r.status = 403 ∨ r.status = 429 then
    match (r.header? "retry-after").bind readUInt64? with
    | some seconds => some (.ofSeconds seconds)
    | none =>
      if r.header? "x-ratelimit-remaining" = some "0" then
        match (r.header? "x-ratelimit-reset").bind readInt64? with
        | some reset => some (timeUntil now reset)
        | none => some fallbackReset
      else if r.status = 429 then some fallbackReset
      else none
  else none

/-- The message of an error body, or the body as it is. -/
def errorMessage (r : Response) : String :=
  let body := r.lenientText?.getD ""
  let message? : Option String := do
    match ← (← Json.parse body).record? ["message"] with
    | [some message] => message.string?
    | _ => none
  message?.getD body

/-- The error that a response with an unexpected status stands for. -/
def apiError (r : Response) : Error := .api r.status (errorMessage r)

/-- A page of registrations. -/
structure RunnerPage where
  totalCount : Nat
  runners : List Runner
deriving DecidableEq

/-- Reads a registration. -/
def runner? (d : Document) : Option Runner := do
  match ← d.record? ["id", "name", "busy", "status"] with
  | [some id, some name, busy, status] =>
    return {
      id := ← id.int64?
      name := ← name.string?
      busy := ← busy.elim (some false) Document.bool?
      status := ← status.elim (some "") Document.string? }
  | _ => none

/-- Reads a page of registrations. -/
def runnerPage? (d : Document) : Option RunnerPage := do
  match ← d.record? ["total_count", "runners"] with
  | [some total, some runners] =>
    return {
      totalCount := (← total.word64?).toNat
      runners := ← (← runners.items?).mapM runner? }
  | _ => none

/--
The page of registrations in the body of a response. Bytes that are not well formed matter only
in what is looked at.
-/
def bodyPage? (r : Response) : Option RunnerPage :=
  if r.cut then none else (Json.parseBytes r.body).bind runnerPage?

/-- What a response to the request for a page means. -/
def readPage (now : Int) (r : Response) : Except Error RunnerPage :=
  match rateLimitReset now r with
  | some resetIn => .error (.rateLimited resetIn)
  | none =>
    if r.isSuccess then
      match bodyPage? r with
      | some page => .ok page
      | none => .error (.http .decode)
    else .error (apiError r)

/-- What a response to the request for a removal means. -/
def readRemoval (now : Int) (r : Response) : Except Error Unit :=
  match rateLimitReset now r with
  | some resetIn => .error (.rateLimited resetIn)
  | none =>
    if r.isSuccess then .ok ()
    else if r.status = 422 then .error (.runnerBusy (errorMessage r))
    else .error (apiError r)

/-- How far a listing has come: the page asked for and the registrations received before. -/
structure Listing where
  page : Nat := 1
  received : List Runner := []
deriving DecidableEq

/-- Takes in a page: the listing is complete, or goes on with the next page. -/
def Listing.receive (listing : Listing) (page : RunnerPage) : Listing ⊕ List Runner :=
  let received := listing.received ++ page.runners
  if page.runners = [] ∨ page.totalCount ≤ received.length then .inr received
  else .inl { page := listing.page + 1, received }

end RunnerRelease.GitHub
