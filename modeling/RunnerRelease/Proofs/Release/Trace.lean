import RunnerRelease.Proofs.GitHub.Request
import RunnerRelease.Proofs.Release.Parts

/-!
# The requests of a tick

Which requests a tick sends, in which order, and what becomes of it: a patch for the start
marker, the pages of the listing, a removal and a patch for the completion marker, each of them
only where the pod and the replies before demand it, and none after a failure.

## Implementation notes

`Parts.Shape` says so of exchanges that are already divided into parts. It speaks of the pod
that is held, which is the one that the server has sent back where a patch was applied, and
not of the one that was given. A request is described by its fields, whoever puts it together:
`AsksMarker` does so for the cluster, `pageAt` and `AsksRemoval` for the runner service.
-/

namespace RunnerRelease

open Http Procedure

/-- Where a pod is found at the API server of the cluster. -/
def podAddress («namespace» name : String) : String :=
  let scope := if «namespace».isEmpty then "" else "namespaces/" ++ «namespace» ++ "/"
  "/api/v1/" ++ scope ++ "pods/" ++ name

/-- The request adds a marker to a pod, and names the version of the pod if it has one. -/
structure AsksMarker (client : Kubernetes.Client) (pod : Pod) (key : String) (now : Instant)
    (request : Request) : Prop where
  method : request.method = "PATCH"
  /-- A number sign in the name of the pod would end the target. -/
  target : request.target = .ofList ((podAddress
    (pod.metadata.namespace.getD client.defaultNamespace) pod.nameAny).toList.takeWhile (· != '#'))
  headers : request.headers =
    [("accept", "application/json"), ("content-type", "application/merge-patch+json")]
  body : request.body = some (.object [("metadata", .ofFields [
    ("annotations", some (.object [(key, .string (Rfc3339.render now))])),
    ("resourceVersion", pod.metadata.resourceVersion.map .string)])])

/-- What is sent for a marker: a request that adds it, if there is a pod that lacks it. -/
inductive SendsMarker (client : Kubernetes.Client) (key : String) (now : Instant) :
    Option Pod → List Request → Prop
  | nobody : SendsMarker client key now none []
  | present {pod : Pod} (hsome : (pod.annotated key).isSome) :
      SendsMarker client key now (some pod) []
  | missing {pod : Pod} {request : Request} (hnone : pod.annotated key = none)
      (hasks : AsksMarker client pod key now request) :
      SendsMarker client key now (some pod) [request]

theorem target_of_podTarget? {«namespace» name target : String}
    (h : Kubernetes.podTarget? «namespace» name = some target) :
    target = .ofList ((podAddress «namespace» name).toList.takeWhile (· != '#')) := by
  have hspelled {text : String} (htext : Kubernetes.target? text = some target) :
      target = .ofList (text.toList.takeWhile (· != '#')) := by
    simp only [Kubernetes.target?] at htext
    split at htext
    · exact (Option.some.inj htext).symm
    · cases htext
  rw [Kubernetes.podTarget?] at h
  by_cases hempty : name.isEmpty
  · rw [if_pos hempty] at h
    cases h
  · rw [if_neg hempty] at h
    exact hspelled h

section

variable {client : Kubernetes.Client} {pod : Option Pod} {key : String} {now : Instant}

theorem asksMarker_of_markerRequest {pod : Pod} {request : Request}
    (h : markerRequest client pod key now = some request) :
    AsksMarker client pod key now request := by
  obtain ⟨target, htarget, rfl⟩ := Option.map_eq_some_iff.1 h
  exact ⟨rfl, target_of_podTarget? htarget, rfl, rfl⟩

theorem Writes.sendsMarker {conn : Connection} {trace : List Exchanged}
    {marked : Except Failure (Option Pod)} (h : Writes conn pod key now trace marked) :
    SendsMarker conn.kubernetes key now pod (trace.map Exchanged.request) := by
  have hrequests := h.requests
  cases pod with
  | none =>
      rw [List.map_eq_nil_iff.1 hrequests]
      exact .nobody
  | some pod =>
      rw [markerRequests] at hrequests
      split at hrequests
      · rename_i text htext
        rw [List.map_eq_nil_iff.1 hrequests]
        exact .present (htext ▸ rfl)
      · rename_i hnone
        obtain ⟨x, rfl, hx⟩ := List.map_eq_singleton_iff.1 hrequests
        exact .missing hnone (asksMarker_of_markerRequest hx.symm)

end

section

variable {conn : Connection} {policy : Policy} {scope : Scope} {runner : String}
  {given : Option Pod} {now : Instant} {replies : List Reply}

/--
What is sent in each part of a tick and when, what stops the tick, and what it comes to then.
-/
structure Parts.Shape (conn : Connection) (policy : Policy) (scope : Scope) (runner : String)
    (given : Option Pod) (now : Instant) (parts : Parts) (result : Except Failure TickOutcome) :
    Prop where
  /-- A patch for the start marker, if a pod without it is given. -/
  start : SendsMarker conn.kubernetes startMarker now given (parts.start.map Exchanged.request)
  /-- A listing, unless the start marker was refused or the pod that is held is complete. -/
  asked : parts.pages ≠ [] ↔ ∃ held, heldAfterMarking given parts.start = .ok held ∧
    (held.bind fun pod => pod.annotated completeMarker) = none
  /-- The pages in order, from the first one on. -/
  listing : ∃ address, conn.github.ListsAt scope address ∧ parts.pages.map Exchanged.request =
    (List.range' 1 parts.pages.length).map (conn.github.pageAt address)
  /-- The last page completes the listing or cannot be had. -/
  ends : parts.pages ≠ [] → (∃ runners, Brings conn.now parts.pages runners) ∨
    ∃ x ∈ parts.pages.getLast?, ∃ error, x.page conn.now = .error error
  /-- A removal, if the listing was successful and has an entry of the runner. -/
  removing : Removes conn.now runner (conn.github.AsksRemoval scope) parts.pages parts.removal
  /-- The advice is that of the decision on the pod that is held, by these exchanges. -/
  decided : ∀ held, heldAfterMarking given parts.start = .ok held →
    ∃ answers, (decideRelease policy scope runner held now).Yields answers parts.advice ∧
      Carries conn answers (parts.pages ++ parts.removal)
  /-- A patch for the completion marker, if the pod that is held may go and lacks it. -/
  complete : match heldAfterMarking given parts.start, parts.advice with
    | .ok held, none =>
        SendsMarker conn.kubernetes completeMarker now held (parts.complete.map Exchanged.request)
    | _, _ => parts.complete = []
  /-- No exchange follows one that has failed. -/
  stops : parts.trace.Pairwise fun x _ => x.failure? conn.now = none
  /-- The tick fails with the failure of a patch, and with no other. -/
  error_iff : ∀ failure, result = .error failure ↔
    ∃ x ∈ parts.start ++ parts.complete, x.failure? conn.now = some failure
  /-- The tick is to be repeated when the runner service has failed. -/
  repeated : ∀ x ∈ parts.pages ++ parts.removal, ∀ failure, x.failure? conn.now = some failure →
    ∃ advice, result = .ok (.retry advice) ∧ advice.failure = some failure

/-- After an exchange that has failed there is none. -/
theorem eq_nil_of_failure? {clock : Int} {before after : List Exchanged}
    (h : (before ++ after).Pairwise fun x _ => x.failure? clock = none) {x : Exchanged}
    (hx : x ∈ before) (hfailed : x.failure? clock ≠ none) : after = [] := by
  rw [List.eq_nil_iff_forall_not_mem]
  intro y hy
  exact hfailed ((List.pairwise_append.1 h).2.2 x hx y hy)

namespace Parts

variable {parts : Parts} {result : Except Failure TickOutcome}

theorem Course.isPatch_of_mem (h : parts.Course conn policy scope runner given now result) :
    ∀ x ∈ parts.start ++ parts.complete, x.call.isPatch := by
  cases h with
  | unstarted hstart => simpa using hstart.patches
  | advised hstart _ => simpa using hstart.patches
  | completed hstart _ hcomplete =>
      exact List.forall_mem_append.2 ⟨hstart.patches, hcomplete.patches⟩

theorem Course.isToRunnerService_of_mem
    (h : parts.Course conn policy scope runner given now result) :
    ∀ x ∈ parts.pages ++ parts.removal, x.call.isToRunnerService := by
  cases h with
  | unstarted _ => simp
  | advised _ hasks => exact hasks.services
  | completed _ hasks _ => exact hasks.services

/-- A tick fails with the failure of a patch. -/
theorem Course.exists_failure? (h : parts.Course conn policy scope runner given now result)
    {failure : Failure} (hresult : result = .error failure) :
    ∃ x ∈ parts.start ++ parts.complete, x.failure? conn.now = some failure := by
  cases h with
  | unstarted hstart =>
      cases hresult
      simpa using hstart.failed _ rfl
  | advised _ _ => cases hresult
  | @completed _ _ _ _ _ completed _ _ hcomplete =>
      cases completed with
      | ok released => cases hresult
      | error found =>
          cases hresult
          obtain ⟨x, hx, hfailed⟩ := hcomplete.failed _ rfl
          exact ⟨x, List.mem_append_right _ hx, hfailed⟩

theorem Course.shape (h : parts.Course conn policy scope runner given now result)
    (hstops : Stops policy conn.now parts.trace result)
    (hsend : (conn.github.pageRequest scope 1).toOption.isSome) :
    parts.Shape conn policy scope runner given now result := by
  have hpatch := h.isPatch_of_mem
  have hservice := h.isToRunnerService_of_mem
  have herror : ∀ failure, result = .error failure ↔
      ∃ x ∈ parts.start ++ parts.complete, x.failure? conn.now = some failure := by
    intro failure
    constructor
    · intro hresult
      exact h.exists_failure? hresult
    · rintro ⟨x, hx, hfailure⟩
      have hmem : x ∈ parts.trace := by
        rcases List.mem_append.1 hx with hx | hx <;> simp [trace, hx]
      rcases (hstops.of_failure? hmem hfailure).2 with ⟨-, hresult⟩ | ⟨hcall, -⟩
      · exact hresult
      · exact absurd hcall (Call.not_isToRunnerService_of_isPatch (hpatch x hx))
  have hrepeated : ∀ x ∈ parts.pages ++ parts.removal, ∀ failure,
      x.failure? conn.now = some failure →
      ∃ advice, result = .ok (.retry advice) ∧ advice.failure = some failure := by
    intro x hx failure hfailure
    have hmem : x ∈ parts.trace := by
      rcases List.mem_append.1 hx with hx | hx <;> simp [trace, hx]
    rcases (hstops.of_failure? hmem hfailure).2 with ⟨hcall, -⟩ | ⟨-, error, rfl, hresult⟩
    · exact absurd (hservice x hx) (Call.not_isToRunnerService_of_isPatch hcall)
    · exact ⟨_, hresult, onServiceError_failure policy error⟩
  have hpairwise := hstops.pairwise
  have hlisting {pages : List Exchanged} (hrequests : pages.map (fun x => Except.ok x.request) =
      (List.range' 1 pages.length).map (conn.github.pageRequest scope)) :
      ∃ address, conn.github.ListsAt scope address ∧ pages.map Exchanged.request =
        (List.range' 1 pages.length).map (conn.github.pageAt address) := by
    apply GitHub.Client.exists_listsAt_of_map_ok hsend
    rwa [List.map_map]
  have hremoving {pages removal : List Exchanged} (hremoves : Removes conn.now runner
      (fun id request => conn.github.removeRequest scope id = .ok request) pages removal) :
      Removes conn.now runner (conn.github.AsksRemoval scope) pages removal :=
    hremoves.mono fun _ _ => GitHub.Client.asksRemoval_of_removeRequest
  cases h with
  | unstarted hstart =>
      refine ⟨hstart.sendsMarker, by simp [hstart.held], hlisting rfl, fun hne => absurd rfl hne,
        .nothing fun _ _ hbrings => absurd hbrings not_brings_nil, by simp [hstart.held],
        by simp [hstart.held], hpairwise, herror, hrepeated⟩
  | advised hstart hasks =>
      refine ⟨hstart.sendsMarker, by simp [hstart.held, hasks.asked], hlisting hasks.listing,
        hasks.ends, hremoving hasks.removing, ?_, by simp [hstart.held], hpairwise, herror,
        hrepeated⟩
      simpa [hstart.held] using hasks.decided
  | completed hstart hasks hcomplete =>
      refine ⟨hstart.sendsMarker, by simp [hstart.held, hasks.asked], hlisting hasks.listing,
        hasks.ends, hremoving hasks.removing, ?_, ?_, hpairwise, herror, hrepeated⟩
      · simpa [hstart.held] using hasks.decided
      · simpa [hstart.held] using hcomplete.sendsMarker

variable (h : parts.Shape conn policy scope runner given now result)

include h

/-- Where the start marker could not be written, nothing else is sent. -/
theorem Shape.unstarted {x : Exchanged} (hx : x ∈ parts.start)
    (hfailed : x.failure? conn.now ≠ none) :
    parts.pages = [] ∧ parts.removal = [] ∧ parts.complete = [] := by
  have hstops := h.stops
  rw [trace, List.append_assoc, List.append_assoc] at hstops
  have hrest := eq_nil_of_failure? hstops hx hfailed
  simpa using hrest

/-- Where the runner service has failed, the completion marker is not written. -/
theorem Shape.uncompleted {x : Exchanged} (hx : x ∈ parts.pages ++ parts.removal)
    (hfailed : x.failure? conn.now ≠ none) : parts.complete = [] := by
  refine eq_nil_of_failure? h.stops ?_ hfailed
  rw [List.append_assoc]
  exact List.mem_append_right _ hx

/-- Where there is no pod, nothing is sent to the cluster. -/
theorem Shape.podless (hgiven : given = none) : parts.start = [] ∧ parts.complete = [] := by
  subst hgiven
  have hnothing {key : String} {trace : List Exchanged}
      (hsends : SendsMarker conn.kubernetes key now none (trace.map Exchanged.request)) :
      trace = [] := by
    generalize hrequests : trace.map Exchanged.request = requests at hsends
    cases hsends
    exact List.map_eq_nil_iff.1 hrequests
  refine ⟨hnothing h.start, ?_⟩
  have hheld : heldAfterMarking none parts.start = .ok none := by
    rw [hnothing h.start]
    rfl
  have hcomplete := h.complete
  rw [hheld] at hcomplete
  cases hadvice : parts.advice with
  | none =>
      rw [hadvice] at hcomplete
      exact hnothing hcomplete
  | some advice =>
      rw [hadvice] at hcomplete
      exact hcomplete

end Parts

/--
With any replies, a tick whose requests can be put together sends what its parts demand, in
their order and up to the first failure. A start marker that is refused leaves the runner
service unasked, a failure of the runner service leaves the completion marker unwritten, and
without a pod nothing is sent to the cluster.
-/
theorem exists_shape_of_tick (policy : Policy) (runner : String)
    (hsend : Sendable conn scope given now replies) :
    let p := tick policy scope runner given now
    let run := Session.run conn p replies
    ∃ parts : Parts, Session.trace conn p replies = parts.trace ∧
      Event.requests run.events = parts.trace.map Exchanged.request ∧
      parts.Shape conn policy scope runner given now run.result ∧
      ((∃ x ∈ parts.start, x.failure? conn.now ≠ none) →
        parts.pages = [] ∧ parts.removal = [] ∧ parts.complete = []) ∧
      ((∃ x ∈ parts.pages ++ parts.removal, x.failure? conn.now ≠ none) → parts.complete = []) ∧
      (given = none → parts.start = [] ∧ parts.complete = []) := by
  intro p run
  obtain ⟨answers, hyields, hcarries⟩ := Session.accounts_run conn p replies
  have hticks := ticks_of_yields hyields
  obtain ⟨parts, htrace, hcourse⟩ := hticks.exists_course hcarries hsend
  have hshape := hcourse.shape (htrace ▸ hticks.settles.stops hcarries)
    (hsend.page 1 (Nat.le_add_left 1 _))
  refine ⟨parts, htrace, ?_, hshape, ?_, ?_, hshape.podless⟩
  · rw [← htrace]
    exact (requests_exchanged run.events replies).symm
  · rintro ⟨x, hx, hfailed⟩
    exact hshape.unstarted hx hfailed
  · rintro ⟨x, hx, hfailed⟩
    exact hshape.uncompleted hx hfailed

end

namespace FirstTick

/-!
The runner is registered and is removed, and the reply to the patch for the completion marker
is lost.
-/

def connection : Connection where
  github := { baseUrl := "http://h", token := "t", userAgent := "a" }
  kubernetes := { defaultNamespace := "default" }
  now := 0

def scope : Scope := .organization "o"

def now : Instant := .ofSeconds 0

def pod : Pod := { metadata := { name := some "runner" } }

/-- The pod as it is stored with the start marker. -/
def marked : Reply :=
  some {
    status := 200
    body := Text.toBytes ("\x7b\"metadata\":\x7b\"name\":\"runner\",\"annotations\":\x7b\"" ++
      startMarker ++ "\":\"1970-01-01T00:00:00Z\"\x7d\x7d\x7d") }

/-- The page with the one registration that there is. -/
def page : Reply :=
  some {
    status := 200
    body := Text.toBytes
      "\x7b\"total_count\":1,\"runners\":[\x7b\"id\":7,\"name\":\"runner\"\x7d]\x7d" }

def replies : List Reply := [marked, page, some { status := 204 }]

def procedure : Procedure (Except Failure TickOutcome) := tick {} scope "runner" (some pod) now

theorem sendable : Sendable connection scope (some pod) now replies where
  page := by decide +kernel
  removal := by decide +kernel
  patch := by decide +kernel

end FirstTick

/-- The patch for the completion marker fails when all the others have been granted. -/
theorem exists_shape_of_first_tick :
    (Session.run FirstTick.connection FirstTick.procedure FirstTick.replies).result =
        .error (.kubernetes .noReply) ∧
      ∃ parts : Parts,
        parts.trace.map (fun x => (x.request.method, x.request.target)) = [
          ("PATCH", "/api/v1/namespaces/default/pods/runner"),
          ("GET", "/orgs/o/actions/runners?per_page=100&page=1"),
          ("DELETE", "/orgs/o/actions/runners/7"),
          ("PATCH", "/api/v1/namespaces/default/pods/runner")] ∧
        parts.Shape FirstTick.connection {} FirstTick.scope "runner" (some FirstTick.pod)
          FirstTick.now (.error (.kubernetes .noReply)) := by
  have hresult : (Session.run FirstTick.connection FirstTick.procedure FirstTick.replies).result =
      .error (.kubernetes .noReply) := by
    decide +kernel
  obtain ⟨parts, htrace, -, hshape, -⟩ := exists_shape_of_tick {} "runner" FirstTick.sendable
  refine ⟨hresult, parts, ?_, hresult ▸ hshape⟩
  rw [← htrace]
  decide +kernel

end RunnerRelease
