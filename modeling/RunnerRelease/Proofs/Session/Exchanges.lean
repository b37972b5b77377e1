import RunnerRelease.Proofs.Session.Answers

/-!
# The exchanges of a session

The requests of a run with the replies that they got. They fall into the exchanges of one call
after the other, and what each call is answered with follows from its own exchanges alone.

## Implementation notes

A request is paired with the reply that has the same place in the list of replies, and with no
reply where there are no more. That a run treats its replies in this way is what `accounts_run`
says. The reply to a request comes one step later than the request itself, hence the detour by
sessions that wait.
-/

namespace RunnerRelease

open Procedure Http

/-- A request that has been sent for a call, and the reply that it has got. -/
structure Exchanged where
  call : Call
  request : Request
  reply : Reply

/-- The requests among some events, each with its reply. -/
def exchanged : List Event → List Reply → List Exchanged
  | [], _ => []
  | .logged _ :: events, replies => exchanged events replies
  | .sent c request :: events, replies =>
      ⟨c, request, replies.head?.join⟩ :: exchanged events replies.tail

@[simp] theorem exchanged_nil (replies : List Reply) : exchanged [] replies = [] := rfl

@[simp] theorem exchanged_logged_append (entries : List LogEntry) (events : List Event)
    (replies : List Reply) :
    exchanged (entries.map .logged ++ events) replies = exchanged events replies := by
  induction entries with
  | nil => rfl
  | cons entry rest ih => exact ih

/-- The requests of the exchanges are those among the events. -/
theorem requests_exchanged (events : List Event) (replies : List Reply) :
    (exchanged events replies).map Exchanged.request = Event.requests events := by
  induction events generalizing replies with
  | nil => rfl
  | cons event rest ih =>
      cases event with
      | logged entry => exact ih replies
      | sent c request => exact congrArg (request :: ·) (ih replies.tail)

/-- The calls that requests have been sent for. -/
def Event.calls (events : List Event) : List Call :=
  events.filterMap fun | .sent c _ => some c | .logged _ => none

/-- The calls of the exchanges are those among the events. -/
theorem calls_exchanged (events : List Event) (replies : List Reply) :
    (exchanged events replies).map Exchanged.call = Event.calls events := by
  induction events generalizing replies with
  | nil => rfl
  | cons event rest ih =>
      cases event with
      | logged entry => exact ih replies
      | sent c request => exact congrArg (c :: ·) (ih replies.tail)

/-- The reply of an exchange is one of the replies. -/
theorem mem_replies_of_mem_exchanged {events : List Event} {replies : List Reply} {x : Exchanged}
    (hx : x ∈ exchanged events replies) {response : Response} (h : x.reply = some response) :
    some response ∈ replies := by
  induction events generalizing replies with
  | nil => cases hx
  | cons event rest ih =>
      cases event with
      | logged entry => exact ih hx
      | sent c request =>
          rcases List.mem_cons.1 hx with rfl | hrest
          · cases replies with
            | nil => cases h
            | cons reply later =>
                obtain rfl : reply = some response := h
                exact List.mem_cons_self
          · exact List.mem_of_mem_tail (ih hrest)

/-- An exchange has got the reply in the same place. -/
theorem reply_of_getElem?_exchanged {events : List Event} {replies : List Reply} {index : Nat}
    {x : Exchanged} (h : (exchanged events replies)[index]? = some x) :
    x.reply = replies[index]?.join := by
  induction events generalizing replies index with
  | nil => cases h
  | cons event later ih =>
      cases event with
      | logged entry => exact ih h
      | sent c request =>
          cases index with
          | zero =>
              cases h
              cases replies <;> rfl
          | succ index =>
              rw [ih h]
              cases replies <;> rfl

/-- No more exchanges have got a reply than there are replies. -/
theorem countP_exchanged_le (events : List Event) (replies : List Reply) :
    (exchanged events replies).countP (fun x => x.reply.isSome) ≤ replies.length := by
  induction events generalizing replies with
  | nil => simp
  | cons event rest ih =>
      cases event with
      | logged entry => exact ih replies
      | sent c request =>
          have hrest := ih replies.tail
          cases replies with
          | nil => simpa [exchanged] using hrest
          | cons reply later =>
              rw [exchanged, List.countP_cons, List.length_cons]
              simp only [List.tail_cons] at hrest ⊢
              split <;> omega

/-- What has become of a call leads to an answer by these exchanges. -/
inductive Exchange.Completes (conn : Connection) {c : Call} :
    Exchange c → List Exchanged → c.Answer → Prop
  | answered (answer : c.Answer) : Completes conn (.answered answer) [] answer
  | lost (request : Request) (progress : c.Progress) :
      Completes conn (.sending request progress) [⟨c, request, none⟩] c.unanswered
  | received {request : Request} {progress : c.Progress} {response : Response}
      {rest : List Exchanged} {answer : c.Answer}
      (hrest : Completes conn (Exchange.receive conn response c progress).2 rest answer) :
      Completes conn (.sending request progress) (⟨c, request, some response⟩ :: rest) answer

/-- Calls are answered one after the other by these exchanges. -/
inductive Carries (conn : Connection) : List Answered → List Exchanged → Prop
  | nil : Carries conn [] []
  | cons {c : Call} {answer : c.Answer} {answers : List Answered} {first rest : List Exchanged}
      (hcall : (Exchange.start conn c).2.Completes conn first answer)
      (hrest : Carries conn answers rest) : Carries conn (⟨c, answer⟩ :: answers) (first ++ rest)

/-- The requests of a call ask for the patch that the call asks for. -/
theorem Exchange.Completes.patch?_eq {conn : Connection} {c : Call} {exchange : Exchange c}
    {trace : List Exchanged} {answer : c.Answer} (h : exchange.Completes conn trace answer)
    (hrequest : ∀ request progress, exchange = .sending request progress →
      request.patch? = c.patch?) : ∀ x ∈ trace, x.request.patch? = x.call.patch? := by
  induction h with
  | answered answer => simp
  | lost request progress =>
      rw [List.forall_mem_singleton]
      exact hrequest request progress rfl
  | @received request progress response rest answer _ ih =>
      rw [List.forall_mem_cons]
      refine ⟨hrequest request progress rfl, ih ?_⟩
      intro later next hnext
      exact Exchange.patch?_of_receive hnext

theorem Carries.patch?_eq {conn : Connection} {answers : List Answered} {trace : List Exchanged}
    (h : Carries conn answers trace) : ∀ x ∈ trace, x.request.patch? = x.call.patch? := by
  induction h with
  | nil => simp
  | cons hcall _ ih =>
      rw [List.forall_mem_append]
      exact ⟨hcall.patch?_eq fun request progress hstart => Exchange.patch?_of_start hstart, ih⟩

/-- The exchanges of calls fall into those of the first calls and those of the others. -/
theorem Carries.exists_append {conn : Connection} {a b : List Answered} {trace : List Exchanged}
    (h : Carries conn (a ++ b) trace) :
    ∃ xs ys, trace = xs ++ ys ∧ Carries conn a xs ∧ Carries conn b ys := by
  induction a generalizing trace with
  | nil => exact ⟨[], trace, rfl, .nil, h⟩
  | cons first answers ih =>
      cases h with
      | cons hcall hrest =>
          obtain ⟨xs, ys, rfl, hxs, hys⟩ := ih hrest
          exact ⟨_, ys, (List.append_assoc _ _ _).symm, .cons hcall hxs, hys⟩

/-- The exchanges of a single call. -/
theorem Carries.completes {conn : Connection} {c : Call} {answer : c.Answer}
    {trace : List Exchanged} (h : Carries conn [⟨c, answer⟩] trace) :
    (Exchange.start conn c).2.Completes conn trace answer := by
  cases h with
  | cons hcall hrest =>
      cases hrest
      rwa [List.append_nil]

namespace Session

variable {α : Type} {conn : Connection}

/-- A procedure comes to this result by these exchanges. -/
def Accounts (conn : Connection) (p : Procedure α) (trace : List Exchanged) (result : α) : Prop :=
  ∃ answers, p.Yields answers result ∧ Carries conn answers trace

theorem Accounts.log {next : Procedure α} {trace : List Exchanged} {result : α}
    (h : Accounts conn next trace result) (entry : LogEntry) :
    Accounts conn (.log entry next) trace result := by
  obtain ⟨answers, hyields, hcarries⟩ := h
  exact ⟨answers, .log hyields, hcarries⟩

/-- A call that is carried out goes on with its answer. -/
def CallAccounts (conn : Connection) {c : Call} (exchange : Exchange c)
    (resume : c.Answer → Procedure α) (trace : List Exchanged) (result : α) : Prop :=
  ∃ answer first rest, trace = first ++ rest ∧ exchange.Completes conn first answer ∧
    Accounts conn (resume answer) rest result

theorem CallAccounts.accounts {c : Call} {resume : c.Answer → Procedure α}
    {trace : List Exchanged} {result : α}
    (h : CallAccounts conn (Exchange.start conn c).2 resume trace result) :
    Accounts conn (.call c resume) trace result := by
  obtain ⟨answer, first, rest, rfl, hcall, answers, hyields, hcarries⟩ := h
  exact ⟨⟨c, answer⟩ :: answers, .call hyields, .cons hcall hcarries⟩

theorem CallAccounts.answered {c : Call} {answer : c.Answer} {resume : c.Answer → Procedure α}
    {trace : List Exchanged} {result : α} (h : Accounts conn (resume answer) trace result) :
    CallAccounts conn (.answered answer) resume trace result :=
  ⟨answer, [], trace, rfl, .answered answer, h⟩

theorem CallAccounts.lost {c : Call} {resume : c.Answer → Procedure α} {trace : List Exchanged}
    {result : α} (request : Request) (progress : c.Progress)
    (h : Accounts conn (resume c.unanswered) trace result) :
    CallAccounts conn (.sending request progress) resume (⟨c, request, none⟩ :: trace) result :=
  ⟨c.unanswered, [⟨c, request, none⟩], trace, rfl, .lost request progress, h⟩

theorem CallAccounts.received {c : Call} {resume : c.Answer → Procedure α}
    {trace : List Exchanged} {result : α} (request : Request) {progress : c.Progress}
    {response : Response}
    (h : CallAccounts conn (Exchange.receive conn response c progress).2 resume trace result) :
    CallAccounts conn (.sending request progress) resume
      (⟨c, request, some response⟩ :: trace) result := by
  obtain ⟨answer, first, rest, rfl, hcall, haccounts⟩ := h
  exact ⟨answer, ⟨c, request, some response⟩ :: first, rest, rfl, .received hcall, haccounts⟩

/-- Without any replies, every request is one that gets none. -/
theorem accounts_finishClosed (conn : Connection) (p : Procedure α) :
    Accounts conn p (exchanged (finishClosed conn p).1 []) (finishClosed conn p).2 := by
  induction p with
  | done result => exact ⟨[], .done result, .nil⟩
  | log entry next ih => exact ih.log entry
  | call c resume ih =>
      apply CallAccounts.accounts
      rw [finishClosed]
      generalize Exchange.start conn c = started
      obtain ⟨entries, exchange⟩ := started
      cases exchange with
      | answered answer =>
          rw [exchanged_logged_append]
          exact .answered (ih answer)
      | sending request progress =>
          rw [exchanged_logged_append]
          exact .lost request progress (ih c.unanswered)

/-- The request that a session waits for is paired with the first of the replies. -/
def WaitingAccounts (α : Type) (conn : Connection) (replies : List Reply) : Prop :=
  ∀ (c : Call) (progress : c.Progress) (resume : c.Answer → Procedure α) (request : Request),
    CallAccounts conn (.sending request progress) resume
      (exchanged (.sent c request :: (finish conn (.waiting c progress resume) replies).events)
        replies)
      (finish conn (.waiting c progress resume) replies).result

theorem finish_ended (conn : Connection) (result : α) (replies : List Reply) :
    finish conn (.ended result) replies = ⟨[], result, replies⟩ := by
  cases replies <;> rfl

/-- A procedure is carried on to its next request, whose reply is the first one. -/
theorem accounts_run_of_waiting {replies : List Reply} (h : WaitingAccounts α conn replies)
    (p : Procedure α) :
    Accounts conn p (exchanged (run conn p replies).events replies)
      (run conn p replies).result := by
  induction p with
  | done result =>
      simp only [run, advance, finish_ended]
      exact ⟨[], .done result, .nil⟩
  | log entry next ih => exact ih.log entry
  | call c resume ih =>
      apply CallAccounts.accounts
      simp only [run] at ih ⊢
      rw [advance]
      generalize Exchange.start conn c = started
      obtain ⟨entries, exchange⟩ := started
      cases exchange with
      | answered answer =>
          dsimp only
          rw [List.append_assoc, exchanged_logged_append]
          exact .answered (ih answer)
      | sending request progress =>
          dsimp only
          rw [List.append_assoc, exchanged_logged_append]
          exact h c progress resume request

theorem waitingAccounts (conn : Connection) (replies : List Reply) :
    WaitingAccounts α conn replies := by
  induction replies with
  | nil =>
      intro c progress resume request
      exact .lost request progress (accounts_finishClosed conn (resume c.unanswered))
  | cons reply replies ih =>
      intro c progress resume request
      cases reply with
      | none => exact .lost request progress (accounts_run_of_waiting ih (resume c.unanswered))
      | some response =>
          refine .received request ?_
          simp only [finish, receive, List.tail_cons]
          generalize Exchange.receive conn response c progress = received
          obtain ⟨entries, exchange⟩ := received
          cases exchange with
          | answered answer =>
              dsimp only
              rw [List.append_assoc, exchanged_logged_append]
              exact .answered (accounts_run_of_waiting ih (resume answer))
          | sending request next =>
              dsimp only
              rw [List.append_assoc, exchanged_logged_append]
              exact ih c next resume request

/-- The exchanges of a run: its requests, each with the reply in the same place. -/
def trace (conn : Connection) (p : Procedure α) (replies : List Reply) : List Exchanged :=
  exchanged (run conn p replies).events replies

theorem length_requests_run (conn : Connection) (p : Procedure α) (replies : List Reply) :
    (Event.requests (run conn p replies).events).length = (trace conn p replies).length := by
  rw [← requests_exchanged _ replies, List.length_map]
  rfl

/-- A run comes to its result by its exchanges. -/
theorem accounts_run (conn : Connection) (p : Procedure α) (replies : List Reply) :
    Accounts conn p (trace conn p replies) (run conn p replies).result :=
  accounts_run_of_waiting (waitingAccounts conn replies) p

/-- A single call is carried out by all exchanges of its run. -/
theorem completes_run_ask (conn : Connection) (c : Call) (replies : List Reply) :
    (Exchange.start conn c).2.Completes conn (trace conn (ask c) replies)
      (run conn (ask c) replies).result := by
  obtain ⟨answers, hyields, hcarries⟩ := accounts_run conn (ask c) replies
  generalize trace conn (ask c) replies = exchanges at hcarries
  generalize (run conn (ask c) replies).result = answer at hyields
  cases hyields with
  | call hdone =>
      cases hdone
      exact hcarries.completes

end Session

end RunnerRelease
