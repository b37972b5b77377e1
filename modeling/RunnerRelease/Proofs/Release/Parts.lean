import RunnerRelease.Proofs.Release.Course
import RunnerRelease.Proofs.Registry.Pages

/-!
# The parts of a tick

The exchanges of a tick fall into four parts: those for the start marker, the pages of the
listing, the removal, and those for the completion marker. Each part is described by itself,
with the result on which the next one depends.

## Implementation notes

Requests that cannot be put together are not sent, and the call fails without an exchange.
`Sendable` excludes that for all requests to which the given replies may lead: the pages up to
the one after the last reply, the removal of what the replies list, and patches of the pod that
is given and of the one that comes back. Only the first reply can bring a pod that is patched
again, and it does so only if it answers a patch.
-/

namespace RunnerRelease

open Http Procedure

/-- The pods that can be read from some replies. -/
def podsIn (replies : List Reply) : List Pod :=
  replies.filterMap fun reply => reply.bind fun response => (Kubernetes.readPod response).toOption

/-- The registrations on the pages that can be read from some replies. -/
def runnersIn (now : Int) (replies : List Reply) : List Runner :=
  (replies.filterMap fun reply =>
    reply.bind fun response => (GitHub.readPage now response).toOption).flatMap
      GitHub.RunnerPage.runners

/-- The request that adds a marker to a pod. -/
def markerRequest (client : Kubernetes.Client) (pod : Pod) (key : String) (now : Instant) :
    Option Request :=
  Kubernetes.patchRequest (client.namespaceOf pod) pod.nameAny
    (Pod.markerPatch pod.metadata.resourceVersion key (Rfc3339.render now))

/-- The requests for a marker: one, if there is a pod that lacks it. -/
def markerRequests (client : Kubernetes.Client) (pod : Option Pod) (key : String)
    (now : Instant) : List (Option Request) :=
  match pod with
  | none => []
  | some pod =>
      match pod.annotated key with
      | some _ => []
      | none => [markerRequest client pod key now]

/-- The requests to which a tick may come with these replies can be put together. -/
structure Sendable (conn : Connection) (scope : Scope) (given : Option Pod) (now : Instant)
    (replies : List Reply) : Prop where
  page : ∀ page ≤ replies.length + 1, (conn.github.pageRequest scope page).toOption.isSome
  removal : ∀ entry ∈ runnersIn conn.now replies,
    (conn.github.removeRequest scope entry.id).toOption.isSome
  patch : ∀ pod ∈ given.toList ++ podsIn (replies.take
      (markerRequests conn.kubernetes given startMarker now).length),
    (Kubernetes.podTarget? (conn.kubernetes.namespaceOf pod) pod.nameAny).isSome

/-- What the reply to the patch of a pod comes to. -/
def patched (pod : Pod) (reply : Reply) : Except Failure Pod :=
  reply.elim (.error (.kubernetes .noReply)) (Kubernetes.readPatched pod.nameAny)

/-- The pod that is held once a marker has been dealt with by these exchanges. -/
def heldAfterMarking : Option Pod → List Exchanged → Except Failure (Option Pod)
  | some pod, [x] => (patched pod x.reply).map some
  | pod, _ => .ok pod

/-- The exchanges of a tick, step by step, and the advice of the decision among them. -/
structure Parts where
  start : List Exchanged
  pages : List Exchanged
  removal : List Exchanged
  complete : List Exchanged
  advice : Option Retry

namespace Parts

/-- All exchanges, in their order. -/
def trace (parts : Parts) : List Exchanged :=
  parts.start ++ parts.pages ++ parts.removal ++ parts.complete

end Parts

variable {conn : Connection} {policy : Policy} {scope : Scope} {runner key : String}
  {given held pod : Option Pod} {now : Instant} {replies : List Reply} {answers : List Answered}
  {trace : List Exchanged} {advice : Option Retry}

/-- The exchanges for a marker, and the pod that is held then. -/
structure Writes (conn : Connection) (pod : Option Pod) (key : String) (now : Instant)
    (trace : List Exchanged) (marked : Except Failure (Option Pod)) : Prop where
  requests : trace.map (fun x => some x.request) = markerRequests conn.kubernetes pod key now
  held : heldAfterMarking pod trace = marked
  patches : ∀ x ∈ trace, x.call.isPatch
  failed : ∀ failure, marked = .error failure → ∃ x ∈ trace, x.failure? conn.now = some failure

/-- What comes after the pages: a removal, if they bring a listing with an entry of the runner. -/
inductive Removes (now : Int) (runner : String) (asks : Int → Request → Prop)
    (pages : List Exchanged) : List Exchanged → Prop
  | found {runners : List Runner} {entry : Runner} {x : Exchanged}
      (hbrings : Brings now pages runners) (hfirst : FirstRegistered runner runners entry)
      (hasks : asks entry.id x.request) : Removes now runner asks pages [x]
  | nothing (hnone : ∀ runners entry, Brings now pages runners →
      ¬ FirstRegistered runner runners entry) : Removes now runner asks pages []

theorem Removes.mono {clock : Int} {asks other : Int → Request → Prop}
    {pages removal : List Exchanged} (h : Removes clock runner asks pages removal)
    (hmono : ∀ id request, asks id request → other id request) :
    Removes clock runner other pages removal := by
  cases h with
  | found hbrings hfirst hasks => exact .found hbrings hfirst (hmono _ _ hasks)
  | nothing hnone => exact .nothing hnone

/-- The exchanges of a decision: the pages of a listing and a removal. -/
structure Asks (conn : Connection) (policy : Policy) (scope : Scope) (runner : String)
    (held : Option Pod) (now : Instant) (pages removal : List Exchanged)
    (advice : Option Retry) : Prop where
  asked : pages ≠ [] ↔ (held.bind fun pod => pod.annotated completeMarker) = none
  listing : pages.map (fun x => Except.ok x.request) =
    (List.range' 1 pages.length).map (conn.github.pageRequest scope)
  ends : pages ≠ [] → (∃ runners, Brings conn.now pages runners) ∨
    ∃ x ∈ pages.getLast?, ∃ error, x.page conn.now = .error error
  removing : Removes conn.now runner
    (fun id request => conn.github.removeRequest scope id = .ok request) pages removal
  decided : ∃ answers, (decideRelease policy scope runner held now).Yields answers advice ∧
    Carries conn answers (pages ++ removal)
  services : ∀ x ∈ pages ++ removal, x.call.isToRunnerService

/-- A call that its first response answers takes one exchange. -/
theorem Exchange.Completes.eq_singleton {c : Call} {request : Request} {progress : c.Progress}
    {answer : c.Answer} (h : (Exchange.sending request progress).Completes conn trace answer)
    (hread : ∀ response, (Exchange.receive conn response c progress).2 =
      .answered (c.reading conn.now response)) :
    ∃ reply, trace = [⟨c, request, reply⟩] ∧
      answer = (⟨c, request, reply⟩ : Exchanged).reading conn.now := by
  cases h with
  | lost _ _ => exact ⟨none, rfl, rfl⟩
  | @received _ _ response _ _ hrest =>
      rw [hread] at hrest
      cases hrest
      exact ⟨some response, rfl, rfl⟩

theorem reading_patchPod (base updated : Pod) (request : Request) (reply : Reply) (clock : Int) :
    (⟨.patchPod base updated, request, reply⟩ : Exchanged).reading clock = patched base reply := by
  cases reply <;> rfl

/-- A marker that is missing takes one exchange, and none if there is nothing to write. -/
theorem MarksIfAny.writes {marked : Except Failure (Option Pod)}
    (h : MarksIfAny key (Rfc3339.render now) pod answers marked)
    (hcarries : Carries conn answers trace)
    (hsend : ∀ p ∈ pod, (Kubernetes.podTarget? (conn.kubernetes.namespaceOf p) p.nameAny).isSome) :
    Writes conn pod key now trace marked := by
  cases h with
  | nobody =>
      cases hcarries
      exact ⟨rfl, rfl, by simp, by simp⟩
  | @somebody p answers result hmarks =>
      cases hmarks with
      | present hsome =>
          cases hcarries
          obtain ⟨text, htext⟩ := Option.isSome_iff_exists.1 hsome
          exact ⟨by simp [markerRequests, htext], rfl, by simp, by simp [Except.map]⟩
      | asked hmissing _ =>
          obtain ⟨target, htarget⟩ := Option.isSome_iff_exists.1 (hsend p rfl)
          have hcall := hcarries.completes
          simp only [Exchange.start, Pod.patchTo_annotate _ hmissing, Kubernetes.patchRequest,
            htarget, Option.map_some] at hcall
          obtain ⟨reply, rfl, hresult⟩ := hcall.eq_singleton fun _ => rfl
          rw [reading_patchPod] at hresult
          subst hresult
          refine ⟨?_, rfl, by simp [Call.isPatch], ?_⟩
          · simp [markerRequests, hmissing, markerRequest, Kubernetes.patchRequest, htarget]
          · intro failure hfailure
            refine ⟨_, List.mem_singleton_self _, ?_⟩
            rw [Exchanged.failure?, reading_patchPod]
            cases hpatched : patched p reply with
            | ok stored =>
                rw [hpatched] at hfailure
                cases hfailure
            | error found =>
                rw [hpatched] at hfailure
                cases hfailure
                rfl

/-- An unregistration lists the runners and goes on to a removal if it finds an entry. -/
theorem Unregisters.exists_listing {outcome : Except GitHub.Error Unregistration}
    (h : Unregisters scope runner answers outcome) :
    ∃ listing rest, answers = ⟨.listRunners scope, listing⟩ :: rest ∧
      (registered runner listing = none ∧ rest = [] ∨
        ∃ entry removal, registered runner listing = some entry ∧
          rest = [⟨.removeRunner scope entry.id, removal⟩]) := by
  cases h with
  | unlisted error => exact ⟨_, [], rfl, .inl ⟨rfl, rfl⟩⟩
  | absent hfind => exact ⟨_, [], rfl, .inl ⟨hfind, rfl⟩⟩
  | removed hfind => exact ⟨_, _, rfl, .inr ⟨_, _, hfind, rfl⟩⟩
  | refused hfind error => exact ⟨_, _, rfl, .inr ⟨_, _, hfind, rfl⟩⟩

/-- A removal takes one exchange, and none if its request cannot be put together. -/
theorem Carries.eq_nil_or_removal {id : Int} {removal : Except GitHub.Error Unit}
    (h : Carries conn [⟨.removeRunner scope id, removal⟩] trace) :
    trace = [] ∧ (∃ error, conn.github.removeRequest scope id = .error error) ∨
      ∃ request reply, conn.github.removeRequest scope id = .ok request ∧
        trace = [⟨.removeRunner scope id, request, reply⟩] := by
  have hcall := h.completes
  cases hrequest : conn.github.removeRequest scope id with
  | error error =>
      simp only [Exchange.start, hrequest] at hcall
      cases hcall
      exact .inl ⟨rfl, error, rfl⟩
  | ok request =>
      simp only [Exchange.start, hrequest] at hcall
      obtain ⟨reply, htrace, -⟩ := hcall.eq_singleton fun response => by
        simp only [Exchange.receive, Call.reading]
        cases GitHub.readRemoval conn.now response <;> rfl
      exact .inr ⟨request, reply, rfl, htrace⟩

/-- A removal whose request can be put together takes one exchange. -/
theorem Carries.exists_removal {id : Int} {removal : Except GitHub.Error Unit}
    (h : Carries conn [⟨.removeRunner scope id, removal⟩] trace)
    (hsend : (conn.github.removeRequest scope id).toOption.isSome) :
    ∃ request reply, conn.github.removeRequest scope id = .ok request ∧
      trace = [⟨.removeRunner scope id, request, reply⟩] := by
  rcases h.eq_nil_or_removal with ⟨-, error, hrequest⟩ | hremoval
  · rw [hrequest] at hsend
    cases hsend
  · exact hremoval

/-- The exchanges of a decision are those of a listing and of the removal of what it finds. -/
theorem Decides.exists_asks (h : Decides policy scope runner held now answers advice)
    (hcarries : Carries conn answers trace)
    (hpages : ∀ page ≤ 1 + trace.countP (fun x => x.reply.isSome),
      (conn.github.pageRequest scope page).toOption.isSome)
    (hremovals : ∀ x ∈ trace, ∀ page, x.page conn.now = .ok page → ∀ entry ∈ page.runners,
      (conn.github.removeRequest scope entry.id).toOption.isSome) :
    ∃ pages removal, trace = pages ++ removal ∧
      Asks conn policy scope runner held now pages removal advice := by
  have hyields := h.yields
  cases h with
  | decided hcomplete =>
      cases hcarries
      refine ⟨[], [], rfl, ?_, rfl, fun hne => absurd rfl hne, .nothing ?_,
        ⟨[], hyields, .nil⟩, by simp⟩
      · simp [Option.isSome_iff_ne_none.1 hcomplete]
      · exact fun runners entry hbrings => absurd hbrings not_brings_nil
  | asked hnone hask =>
      obtain ⟨listing, rest, rfl, hrest⟩ := hask.exists_listing
      have hall := hcarries
      cases hcarries with
      | @cons _ _ _ pages removal hlist hremove =>
          have hfirst : ∀ page ≤ 1 + pages.countP (fun x => x.reply.isSome),
              (conn.github.pageRequest scope page).toOption.isSome := by
            intro page hpage
            apply hpages
            rw [List.countP_append]
            omega
          have hlists := hlist.lists_of_start
          obtain ⟨hne, hrequests, hfails⟩ := hlists.requests hfirst
          have hlisted {runners : List Runner} :
              listing = .ok runners ↔ Brings conn.now pages runners := hlists.eq_ok_iff hfails
          have hcalls : ∀ x ∈ pages, x.call.isToRunnerService := by
            intro x hx
            rw [hlist.call_eq x hx]
            rfl
          have hends : (∃ runners, Brings conn.now pages runners) ∨
              ∃ x ∈ pages.getLast?, ∃ error, x.page conn.now = .error error := by
            cases listing with
            | ok runners => exact .inl ⟨runners, hlisted.1 rfl⟩
            | error error =>
                obtain ⟨x, hx, hfailed⟩ := hfails error rfl
                exact .inr ⟨x, hx, error, hfailed⟩
          have hremoval : Removes conn.now runner
                (fun id request => conn.github.removeRequest scope id = .ok request) pages removal ∧
              ∀ x ∈ removal, x.call.isToRunnerService := by
            rcases hrest with ⟨hnothing, rfl⟩ | ⟨entry, answer, hentry, rfl⟩
            · cases hremove
              refine ⟨.nothing ?_, by simp⟩
              intro runners entry hbrings hfound
              obtain rfl := hlisted.2 hbrings
              exact hfound.not_absent (not_registered_of_find?_eq_none hnothing)
            · cases listing with
              | error error => cases hentry
              | ok runners =>
                  have hbrings := hlisted.1 rfl
                  obtain ⟨x, hx, page, hpage, hmem⟩ :=
                    hbrings.exists_page (List.mem_of_find?_eq_some hentry)
                  have hsend := hremovals x (List.mem_append_left _ hx) page hpage entry hmem
                  obtain ⟨request, reply, hrequest, rfl⟩ := hremove.exists_removal hsend
                  refine ⟨.found hbrings (firstRegistered_of_find? hentry) hrequest, ?_⟩
                  simp [Call.isToRunnerService]
          exact ⟨pages, removal, rfl, by simp [hne, hnone], hrequests, fun _ => hends, hremoval.1,
            ⟨_, hyields, hall⟩, List.forall_mem_append.2 ⟨hcalls, hremoval.2⟩⟩

/-- The parts of a tick, each with the result on which the next one depends. -/
inductive Parts.Course (conn : Connection) (policy : Policy) (scope : Scope) (runner : String)
    (given : Option Pod) (now : Instant) : Parts → Except Failure TickOutcome → Prop
  | unstarted {start : List Exchanged} {failure : Failure}
      (hstart : Writes conn given startMarker now start (.error failure)) :
      Course conn policy scope runner given now ⟨start, [], [], [], none⟩ (.error failure)
  | advised {start pages removal : List Exchanged} {held : Option Pod} {advice : Retry}
      (hstart : Writes conn given startMarker now start (.ok held))
      (hasks : Asks conn policy scope runner held now pages removal (some advice)) :
      Course conn policy scope runner given now ⟨start, pages, removal, [], some advice⟩
        (.ok (.retry advice))
  | completed {start pages removal complete : List Exchanged} {held : Option Pod}
      {completed : Except Failure (Option Pod)}
      (hstart : Writes conn given startMarker now start (.ok held))
      (hasks : Asks conn policy scope runner held now pages removal none)
      (hcomplete : Writes conn held completeMarker now complete completed) :
      Course conn policy scope runner given now ⟨start, pages, removal, complete, none⟩
        (completed.map TickOutcome.safeToDelete)

/-- The pod that is held has been given or can be read from the reply to a patch. -/
theorem mem_of_heldAfterMarking {p : Pod} (h : heldAfterMarking given trace = .ok (some p))
    (hreplies : ∀ x, trace = [x] → ∀ response, x.reply = some response → some response ∈ replies) :
    p ∈ given.toList ++ podsIn replies := by
  rw [heldAfterMarking.eq_def] at h
  split at h
  · rename_i pod x
    cases hreply : x.reply with
    | none =>
        rw [hreply] at h
        cases h
    | some response =>
        rw [hreply, patched, Option.elim_some, Kubernetes.readPatched] at h
        split at h
        · rename_i stored hread
          cases h
          refine List.mem_append_right _ (List.mem_filterMap.2 ⟨some response, ?_, ?_⟩)
          · exact hreplies x rfl response hreply
          · rw [Option.bind_some, hread]
            rfl
        · cases h
  · cases h
    exact List.mem_append_left _ (by simp)

theorem mem_runnersIn {x : Exchanged} {page : GitHub.RunnerPage} {entry : Runner} {clock : Int}
    (hpage : x.page clock = .ok page) (hentry : entry ∈ page.runners)
    (hreplies : ∀ response, x.reply = some response → some response ∈ replies) :
    entry ∈ runnersIn clock replies := by
  cases hreply : x.reply with
  | none =>
      rw [Exchanged.page, hreply] at hpage
      cases hpage
  | some response =>
      rw [Exchanged.page, hreply, Option.elim_some] at hpage
      have hread : page ∈ replies.filterMap fun reply =>
          reply.bind fun response => (GitHub.readPage clock response).toOption := by
        refine List.mem_filterMap.2 ⟨some response, hreplies response hreply, ?_⟩
        rw [Option.bind_some, hpage]
        rfl
      exact List.mem_flatMap.2 ⟨page, hread, hentry⟩

/-- If the requests can be put together, the exchanges of a tick fall into its parts. -/
theorem Ticks.exists_course {events : List Event} {result : Except Failure TickOutcome}
    (h : Ticks policy scope runner given now answers result)
    (hcarries : Carries conn answers (exchanged events replies))
    (hsend : Sendable conn scope given now replies) :
    ∃ parts : Parts, exchanged events replies = parts.trace ∧
      parts.Course conn policy scope runner given now result := by
  have hgiven : ∀ p ∈ given,
      (Kubernetes.podTarget? (conn.kubernetes.namespaceOf p) p.nameAny).isSome := by
    intro p hp
    exact hsend.patch p (List.mem_append_left _ (Option.mem_toList.2 hp))
  have hasks {middle : List Answered} {ys : List Exchanged} {held : Option Pod}
      {advice : Option Retry} (hdecide : Decides policy scope runner held now middle advice)
      (hys : Carries conn middle ys) (hsub : ys.Sublist (exchanged events replies)) :
      ∃ pages removal, ys = pages ++ removal ∧
        Asks conn policy scope runner held now pages removal advice := by
    refine hdecide.exists_asks hys (fun page hpage => hsend.page page ?_) ?_
    · have hfewer := hsub.countP_le (p := fun x => x.reply.isSome)
      have hcount := countP_exchanged_le events replies
      omega
    · intro x hx page hpage entry hentry
      refine hsend.removal entry (mem_runnersIn hpage hentry fun response hreply => ?_)
      exact mem_replies_of_mem_exchanged (hsub.mem hx) hreply
  generalize htrace : exchanged events replies = trace at hcarries hasks ⊢
  cases h with
  | unstarted hstart => exact ⟨_, by simp [Parts.trace], .unstarted (hstart.writes hcarries hgiven)⟩
  | advised hstart hdecide =>
      obtain ⟨xs, ys, rfl, hxs, hys⟩ := hcarries.exists_append
      obtain ⟨pages, removal, rfl, hask⟩ := hasks hdecide hys (List.sublist_append_right xs _)
      exact ⟨_, by simp [Parts.trace], .advised (hstart.writes hxs hgiven) hask⟩
  | completed hstart hdecide hcomplete =>
      obtain ⟨_, zs, rfl, hbefore, hzs⟩ := hcarries.exists_append
      obtain ⟨xs, ys, rfl, hxs, hys⟩ := hbefore.exists_append
      have hwrites := hstart.writes hxs hgiven
      obtain ⟨pages, removal, rfl, hask⟩ := hasks hdecide hys (by simp)
      refine ⟨_, by simp [Parts.trace], .completed hwrites hask (hcomplete.writes hzs ?_)⟩
      intro p hp
      obtain rfl := Option.mem_def.1 hp
      refine hsend.patch p (mem_of_heldAfterMarking hwrites.held ?_)
      rintro x rfl response hreply
      -- the patch for the start marker is the first request, so its reply is the first one
      rw [List.append_assoc, List.singleton_append] at htrace
      have hfirst : x.reply = replies[0]?.join :=
        reply_of_getElem?_exchanged (htrace ▸ List.getElem?_cons_zero)
      rw [← hwrites.requests, List.map_singleton, List.length_singleton]
      cases replies with
      | nil =>
          rw [hreply] at hfirst
          cases hfirst
      | cons reply later =>
          have hsame : reply = some response := hfirst.symm.trans hreply
          rw [hsame]
          exact List.mem_cons_self

end RunnerRelease
