import RunnerRelease.Proofs.Procedure
import RunnerRelease.Session.Basic

/-!
# Answers in sessions

What a procedure has been told while it is carried out: the calls that were answered, one
by one, with replies or without any. Promises of the procedure hold of the session at every
point, and what the session waits for is the reply to a request for its call.

## Implementation notes

A call can be answered before anything is sent for it, when its request cannot be put
together. Such an answer is an error, so it brings no pod; only the reply to a patch does.
-/

namespace RunnerRelease

open Procedure Http

/-- The patch that a request asks for. -/
def Http.Request.patch? (request : Request) : Option Json :=
  if request.method = "PATCH" then request.body else none

/-- The patch that a call asks for. -/
def Call.patch? : Call → Option Json
  | .patchPod base updated => some (base.patchTo updated)
  | _ => none

namespace GitHub.Client

theorem patch?_eq_none_of_request {client : Client} {method : String} {url : Url}
    {request : Request} (h : client.request method url = .ok request) :
    request.patch? = none := by
  rw [Client.request] at h
  split at h
  · cases h
    exact ite_self none
  · cases h

theorem patch?_eq_none_of_pageRequest {client : Client} {scope : Scope} {page : Nat}
    {request : Request} (h : client.pageRequest scope page = .ok request) :
    request.patch? = none := by
  rw [pageRequest] at h
  split at h
  · cases h
  · exact patch?_eq_none_of_request h

theorem patch?_eq_none_of_removeRequest {client : Client} {scope : Scope} {id : Int}
    {request : Request} (h : client.removeRequest scope id = .ok request) :
    request.patch? = none := by
  rw [removeRequest] at h
  split at h
  · cases h
  · exact patch?_eq_none_of_request h

end GitHub.Client

namespace Exchange

theorem patch?_of_listingStep {conn : Connection} {scope : Scope} {listing : GitHub.Listing}
    {request : Request} {progress : GitHub.Listing}
    (h : listingStep conn scope listing = .sending request progress) :
    request.patch? = none := by
  rw [listingStep] at h
  split at h
  · cases h
  · rename_i hrequest
    cases h
    exact GitHub.Client.patch?_eq_none_of_pageRequest hrequest

/-- A call begins with a request for its patch, if it has one. -/
theorem patch?_of_start {conn : Connection} {c : Call} {request : Request} {progress : c.Progress}
    (h : (start conn c).2 = .sending request progress) : request.patch? = c.patch? := by
  cases c with
  | listRunners scope =>
      simp only [start] at h
      exact patch?_of_listingStep h
  | removeRunner scope id =>
      simp only [start] at h
      split at h
      · cases h
      · rename_i hrequest
        cases h
        exact GitHub.Client.patch?_eq_none_of_removeRequest hrequest
  | _ =>
      -- the cluster is asked for a patch by a patch alone
      simp only [start] at h
      split at h
      · cases h
      · rename_i hrequest
        cases h
        obtain ⟨target, -, rfl⟩ := Option.map_eq_some_iff.1 hrequest
        rfl

/-- A call that goes on after a response is a listing, and asks for no patch. -/
theorem patch?_of_receive {conn : Connection} {response : Response} {c : Call}
    {progress next : c.Progress} {request : Request}
    (h : (receive conn response c progress).2 = .sending request next) :
    request.patch? = c.patch? := by
  cases c with
  | listRunners scope =>
      simp only [receive] at h
      split at h
      · cases h
      · split at h
        · dsimp only at h
          exact patch?_of_listingStep h
        · cases h
  | removeRunner scope id =>
      simp only [receive] at h
      split at h <;> cases h
  | _ => cases h

/-- What is answered before anything is sent brings no pod. -/
theorem stored?_of_start {conn : Connection} {c : Call} {answer : c.Answer}
    (h : (start conn c).2 = .answered answer) : (⟨c, answer⟩ : Answered).stored? = none := by
  cases c with
  | patchPod base updated =>
      simp only [start] at h
      split at h
      · cases h
        rfl
      · cases h
  | _ => rfl

theorem stored?_unanswered (c : Call) : (⟨c, c.unanswered⟩ : Answered).stored? = none := by
  cases c <;> rfl

/-- A pod that is brought has been read from the reply to a patch. -/
theorem stored?_of_receive {conn : Connection} {response : Response} {c : Call}
    {progress : c.Progress} {answer : c.Answer} {pod : Pod}
    (h : (receive conn response c progress).2 = .answered answer)
    (hpod : (⟨c, answer⟩ : Answered).stored? = some pod) :
    Kubernetes.readPod response = .ok pod := by
  cases c with
  | patchPod base updated =>
      cases h
      cases hread : Kubernetes.readPod response with
      | error failure => simp [Kubernetes.readPatched, hread, Answered.stored?] at hpod
      | ok found =>
          rw [Kubernetes.readPatched, hread] at hpod
          exact congrArg _ (Option.some.inj hpod)
  | _ => cases hpod

end Exchange

namespace Session

variable {α : Type}

/-- What a session has left to do. -/
def procedure : Session α → Procedure α
  | .ended result => .done result
  | .waiting c _ resume => .call c resume

/-- The calls that are answered while a procedure is carried on. -/
def advanceAnswers (conn : Connection) : Procedure α → List Answered
  | .done _ => []
  | .log _ next => advanceAnswers conn next
  | .call c resume =>
      match (Exchange.start conn c).2 with
      | .answered answer => ⟨c, answer⟩ :: advanceAnswers conn (resume answer)
      | .sending _ _ => []

/-- The calls that are answered when a session takes in a reply. -/
def receiveAnswers (conn : Connection) (reply : Reply) : Session α → List Answered
  | .ended _ => []
  | .waiting c progress resume =>
      match reply with
      | none => ⟨c, c.unanswered⟩ :: advanceAnswers conn (resume c.unanswered)
      | some response =>
          match (Exchange.receive conn response c progress).2 with
          | .answered answer => ⟨c, answer⟩ :: advanceAnswers conn (resume answer)
          | .sending _ _ => []

/-- What a session waits for, if anything, is the reply to the last request of the events. -/
def Awaits (events : List Event) : Session α → Prop
  | .ended _ => True
  | .waiting c _ _ =>
      ∃ request, (Event.requests events).getLast? = some request ∧ request.patch? = c.patch?

theorem Awaits.append {events : List Event} {session : Session α} (h : session.Awaits events)
    (earlier : List Event) : session.Awaits (earlier ++ events) := by
  cases session with
  | ended result => trivial
  | waiting c progress resume =>
      obtain ⟨request, hlast, hpatch⟩ := h
      refine ⟨request, ?_, hpatch⟩
      rw [Event.requests, List.filterMap_append, List.getLast?_append]
      rw [Event.requests] at hlast
      rw [hlast]
      rfl

theorem awaits_sent {c : Call} {request : Request} (h : request.patch? = c.patch?)
    (earlier : List Event) (progress : c.Progress) (resume : c.Answer → Procedure α) :
    (waiting c progress resume).Awaits (earlier ++ [.sent c request]) := by
  have hlast : (waiting c progress resume).Awaits [.sent c request] := ⟨request, rfl, h⟩
  exact hlast.append earlier

/-- A procedure that is carried on ends or waits for the reply to what it has sent. -/
theorem awaits_advance (conn : Connection) (p : Procedure α) :
    (advance conn p).2.Awaits (advance conn p).1 := by
  induction p with
  | done result => trivial
  | log entry next ih => exact ih.append [.logged entry]
  | call c resume ih =>
      rw [advance]
      generalize hstart : Exchange.start conn c = started
      obtain ⟨entries, exchange⟩ := started
      cases exchange with
      | answered answer => exact (ih answer).append _
      | sending request progress =>
          exact awaits_sent (Exchange.patch?_of_start (congrArg Prod.snd hstart)) _ _ _

/-- So does a session that takes in a reply. -/
theorem awaits_receive (conn : Connection) (reply : Reply) (session : Session α) :
    (receive conn reply session).2.Awaits (receive conn reply session).1 := by
  cases session with
  | ended result => trivial
  | waiting c progress resume =>
      cases reply with
      | none => exact awaits_advance conn (resume c.unanswered)
      | some response =>
          rw [receive]
          generalize hreceive : Exchange.receive conn response c progress = received
          obtain ⟨entries, exchange⟩ := received
          cases exchange with
          | answered answer => exact (awaits_advance conn (resume answer)).append _
          | sending request next =>
              exact awaits_sent (Exchange.patch?_of_receive (congrArg Prod.snd hreceive)) _ _ _

variable {asks : List Answered → Call → Prop} {returns : List Answered → α → Prop}
  {past : List Answered}

/-- Promises are kept while a procedure is carried on. -/
theorem ensures_advance (conn : Connection) {p : Procedure α}
    (h : Ensures asks returns past p) :
    Ensures asks returns (past ++ advanceAnswers conn p) (advance conn p).2.procedure := by
  induction p generalizing past with
  | done result =>
      rw [advanceAnswers, List.append_nil]
      exact h
  | log entry next ih => exact ih h
  | call c resume ih =>
      rw [advanceAnswers, advance]
      generalize Exchange.start conn c = started
      obtain ⟨entries, exchange⟩ := started
      cases exchange with
      | answered answer =>
          have hnext := ih answer (h.2 answer)
          rwa [List.append_assoc] at hnext
      | sending request progress =>
          rw [List.append_nil]
          exact h

/-- Promises are kept when a session takes in a reply. -/
theorem ensures_receive (conn : Connection) (reply : Reply) {session : Session α}
    (h : Ensures asks returns past session.procedure) :
    Ensures asks returns (past ++ receiveAnswers conn reply session)
      (receive conn reply session).2.procedure := by
  cases session with
  | ended result =>
      rw [receiveAnswers, List.append_nil]
      exact h
  | waiting c progress resume =>
      have hanswered (answer : c.Answer) :
          Ensures asks returns (past ++ ⟨c, answer⟩ :: advanceAnswers conn (resume answer))
            (advance conn (resume answer)).2.procedure := by
        have hnext := ensures_advance conn (h.2 answer)
        rwa [List.append_assoc] at hnext
      cases reply with
      | none => exact hanswered c.unanswered
      | some response =>
          rw [receiveAnswers, receive]
          generalize Exchange.receive conn response c progress = received
          obtain ⟨entries, exchange⟩ := received
          cases exchange with
          | answered answer => exact hanswered answer
          | sending request next =>
              rw [List.append_nil]
              exact h

/-- While a procedure is carried on without replies, no pod is brought. -/
theorem stored?_of_mem_advanceAnswers {conn : Connection} {p : Procedure α} :
    ∀ a ∈ advanceAnswers conn p, a.stored? = none := by
  induction p with
  | done result => simp [advanceAnswers]
  | log entry next ih => exact ih
  | call c resume ih =>
      rw [advanceAnswers]
      split
      · rename_i answer hstart
        rw [List.forall_mem_cons]
        exact ⟨Exchange.stored?_of_start hstart, ih answer⟩
      · simp

/--
The pods that the answers to a reply bring: none, or with the first answer the pod that has
been read from the reply to a patch.
-/
inductive Brings (reply : Reply) (session : Session α) : List Answered → Prop
  | nothing {answers : List Answered} (hnone : ∀ a ∈ answers, a.stored? = none) :
      Brings reply session answers
  | pod {response : Response} {pod base updated : Pod} {progress : Unit}
      {resume : Except Failure Pod → Procedure α} {later : List Answered}
      (hreply : reply = some response) (hread : Kubernetes.readPod response = .ok pod)
      (hsession : session = .waiting (.patchPod base updated) progress resume)
      (hlater : ∀ a ∈ later, a.stored? = none) :
      Brings reply session (⟨.patchPod base updated, .ok pod⟩ :: later)

theorem brings_receiveAnswers (conn : Connection) (reply : Reply) (session : Session α) :
    session.Brings reply (receiveAnswers conn reply session) := by
  cases session with
  | ended result => exact .nothing (by simp [receiveAnswers])
  | waiting c progress resume =>
      cases reply with
      | none =>
          refine .nothing ?_
          rw [receiveAnswers, List.forall_mem_cons]
          exact ⟨Exchange.stored?_unanswered c, stored?_of_mem_advanceAnswers⟩
      | some response =>
          rw [receiveAnswers]
          split
          · rename_i answer hreceive
            cases hpod : (⟨c, answer⟩ : Answered).stored? with
            | none =>
                refine .nothing ?_
                rw [List.forall_mem_cons]
                exact ⟨hpod, stored?_of_mem_advanceAnswers⟩
            | some pod =>
                have hread := Exchange.stored?_of_receive hreceive hpod
                obtain ⟨base, updated, heq⟩ := Answered.eq_of_stored? hpod
                cases heq
                exact .pod rfl hread rfl stored?_of_mem_advanceAnswers
          · exact .nothing (by simp)

end Session

end RunnerRelease
