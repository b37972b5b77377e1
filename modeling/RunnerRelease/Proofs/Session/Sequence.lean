import RunnerRelease.Proofs.Session.Failures

/-!
# Runs one after the other

A run of a procedure that goes on with another one is a run of the first, followed by a run of
the second with the replies that the first has left over.

## Implementation notes

A run is a recursion on the replies with one on the procedure inside it, so sequencing is shown
for a session that waits and for a procedure by turns, as in `accounts_run`. Without replies a
run is `finishClosed`, which has an induction of its own.
-/

namespace RunnerRelease

open Procedure Http

namespace Event

theorem requests_append (a b : List Event) : requests (a ++ b) = requests a ++ requests b :=
  List.filterMap_append

@[simp] theorem requests_logged (entries : List LogEntry) :
    requests (entries.map .logged) = [] := by
  simp [requests]

theorem calls_append (a b : List Event) : calls (a ++ b) = calls a ++ calls b :=
  List.filterMap_append

@[simp] theorem calls_logged (entries : List LogEntry) : calls (entries.map .logged) = [] := by
  simp [calls]

end Event

namespace Session

variable {α β : Type} {conn : Connection}

/-- The outcome of a run after events that came before it. -/
def Outcome.after (earlier : List Event) (outcome : Outcome α) : Outcome α :=
  { outcome with events := earlier ++ outcome.events }

@[simp] theorem Outcome.after_nil (outcome : Outcome α) : outcome.after [] = outcome := rfl

@[simp] theorem Outcome.result_after (earlier : List Event) (outcome : Outcome α) :
    (outcome.after earlier).result = outcome.result := rfl

@[simp] theorem Outcome.unused_after (earlier : List Event) (outcome : Outcome α) :
    (outcome.after earlier).unused = outcome.unused := rfl

@[simp] theorem Outcome.events_after (earlier : List Event) (outcome : Outcome α) :
    (outcome.after earlier).events = earlier ++ outcome.events := rfl

theorem Outcome.requests_after (earlier : List Event) (outcome : Outcome α) :
    Event.requests (outcome.after earlier).events =
      Event.requests earlier ++ Event.requests outcome.events :=
  Event.requests_append earlier outcome.events

@[simp] theorem Outcome.after_after (first second : List Event) (outcome : Outcome α) :
    (outcome.after second).after first = outcome.after (first ++ second) := by
  simp [after]

@[simp] theorem run_done (result : α) (replies : List Reply) :
    run conn (.done result) replies = ⟨[], result, replies⟩ := by
  simp only [run, advance, finish_ended]
  rfl

@[simp] theorem run_log (entry : LogEntry) (next : Procedure α) (replies : List Reply) :
    run conn (.log entry next) replies = (run conn next replies).after [.logged entry] := rfl

/-- A procedure that writes log entries and makes no call. -/
def Silent : Procedure α → Prop
  | .done _ => True
  | .log _ next => Silent next
  | .call _ _ => False

theorem requests_run_of_silent {p : Procedure α} (h : Silent p) (replies : List Reply) :
    Event.requests (run conn p replies).events = [] := by
  induction p with
  | done result => simp [Event.requests]
  | log entry next ih =>
      rw [run_log, Outcome.requests_after, ih h]
      rfl
  | call c resume _ => exact absurd h id

/-- A procedure without calls leaves the answers as they are. -/
theorem Silent.ensures {asks : List Answered → Call → Prop} {returns : List Answered → α → Prop}
    {past : List Answered} {p : Procedure α} (h : Silent p)
    (hreturns : ∀ result, returns past result) : Ensures asks returns past p := by
  induction p with
  | done result => exact hreturns result
  | log entry next ih => exact ih h
  | call c resume _ => exact absurd h id

theorem run_call_of_answered {c : Call} {answer : c.Answer} {entries : List LogEntry}
    (h : Exchange.start conn c = (entries, .answered answer)) (resume : c.Answer → Procedure α)
    (replies : List Reply) :
    run conn (.call c resume) replies =
      (run conn (resume answer) replies).after (entries.map .logged) := by
  simp [run, advance, h, Outcome.after]

theorem run_call_of_sending {c : Call} {request : Request} {progress : c.Progress}
    {entries : List LogEntry} (h : Exchange.start conn c = (entries, .sending request progress))
    (resume : c.Answer → Procedure α) (replies : List Reply) :
    run conn (.call c resume) replies =
      (finish conn (.waiting c progress resume) replies).after
        (entries.map .logged ++ [.sent c request]) := by
  simp [run, advance, h, Outcome.after]

/-- Without replies every request finds the connection closed. -/
theorem run_nil (conn : Connection) (p : Procedure α) :
    run conn p [] = ⟨(finishClosed conn p).1, (finishClosed conn p).2, []⟩ := by
  induction p with
  | done result => rfl
  | log entry next ih =>
      rw [run_log, ih]
      rfl
  | call c resume ih =>
      generalize hstart : Exchange.start conn c = started
      obtain ⟨entries, exchange⟩ := started
      cases exchange with
      | answered answer =>
          rw [run_call_of_answered hstart, ih]
          simp [finishClosed, hstart, Outcome.after]
      | sending request progress =>
          rw [run_call_of_sending hstart]
          simp [finish, finishClosed, hstart, Outcome.after]

/-- Where no response comes, the call goes on unanswered. -/
theorem finish_waiting_of_none {c : Call} (progress : c.Progress)
    (resume : c.Answer → Procedure α) {replies : List Reply} (h : replies.head?.join = none) :
    finish conn (.waiting c progress resume) replies =
      run conn (resume c.unanswered) replies.tail := by
  cases replies with
  | nil =>
      rw [List.tail_nil, run_nil]
      rfl
  | cons reply later =>
      cases h
      rfl

theorem finish_waiting_of_answered {c : Call} {progress : c.Progress} {response : Response}
    {answer : c.Answer} {entries : List LogEntry}
    (h : Exchange.receive conn response c progress = (entries, .answered answer))
    (resume : c.Answer → Procedure α) (later : List Reply) :
    finish conn (.waiting c progress resume) (some response :: later) =
      (run conn (resume answer) later).after (entries.map .logged) := by
  simp [finish, receive, h, run, Outcome.after]

theorem finish_waiting_of_sending {c : Call} {progress next : c.Progress} {response : Response}
    {request : Request} {entries : List LogEntry}
    (h : Exchange.receive conn response c progress = (entries, .sending request next))
    (resume : c.Answer → Procedure α) (later : List Reply) :
    finish conn (.waiting c progress resume) (some response :: later) =
      (finish conn (.waiting c next resume) later).after
        (entries.map .logged ++ [.sent c request]) := by
  simp [finish, receive, h, Outcome.after]

/-- What a run has come to, with a run of the next procedure after it. -/
def Outcome.andThen (conn : Connection) (outcome : Outcome α) (f : α → Procedure β) : Outcome β :=
  (run conn (f outcome.result) outcome.unused).after outcome.events

theorem Outcome.andThen_after (earlier : List Event) (outcome : Outcome α)
    (f : α → Procedure β) :
    (outcome.after earlier).andThen conn f = (outcome.andThen conn f).after earlier := by
  simp [andThen]

theorem Outcome.requests_andThen (outcome : Outcome α) (f : α → Procedure β) :
    Event.requests (outcome.andThen conn f).events =
      Event.requests outcome.events ++
        Event.requests (run conn (f outcome.result) outcome.unused).events :=
  Event.requests_append outcome.events _

/-- With these replies a procedure can be followed by the next one. -/
def Sequences (conn : Connection) (replies : List Reply) (f : α → Procedure β)
    (p : Procedure α) : Prop :=
  run conn (p.bind f) replies = (run conn p replies).andThen conn f

/-- So can a session that waits, if all that it may go on with can. -/
def WaitingSequences (conn : Connection) (replies : List Reply) (f : α → Procedure β) : Prop :=
  ∀ (c : Call) (progress : c.Progress) (resume : c.Answer → Procedure α),
    (∀ answer, Sequences conn replies f (resume answer)) →
      finish conn (.waiting c progress fun answer => (resume answer).bind f) replies =
        (finish conn (.waiting c progress resume) replies).andThen conn f

theorem sequences_of_waiting {replies : List Reply} {f : α → Procedure β}
    (h : WaitingSequences conn replies f) (p : Procedure α) : Sequences conn replies f p := by
  induction p with
  | done result => simp [Sequences, Outcome.andThen]
  | log entry next ih =>
      rw [Sequences] at ih ⊢
      rw [log_bind, run_log, run_log, ih, Outcome.andThen_after]
  | call c resume ih =>
      rw [Sequences, call_bind]
      generalize hstart : Exchange.start conn c = started
      obtain ⟨entries, exchange⟩ := started
      cases exchange with
      | answered answer =>
          rw [run_call_of_answered hstart, run_call_of_answered hstart, ih answer,
            Outcome.andThen_after]
      | sending request progress =>
          rw [run_call_of_sending hstart, run_call_of_sending hstart, h c progress resume ih,
            Outcome.andThen_after]

theorem waitingSequences (conn : Connection) (replies : List Reply) (f : α → Procedure β) :
    WaitingSequences conn replies f := by
  induction replies with
  | nil =>
      intro c progress resume hresume
      rw [finish_waiting_of_none progress _ rfl, finish_waiting_of_none progress _ rfl]
      exact hresume c.unanswered
  | cons reply replies ih =>
      intro c progress resume _
      have hlater (answer : c.Answer) : Sequences conn replies f (resume answer) :=
        sequences_of_waiting ih (resume answer)
      cases reply with
      | none =>
          rw [finish_waiting_of_none progress _ rfl, finish_waiting_of_none progress _ rfl]
          exact hlater c.unanswered
      | some response =>
          generalize hreceive : Exchange.receive conn response c progress = received
          obtain ⟨entries, exchange⟩ := received
          cases exchange with
          | answered answer =>
              rw [finish_waiting_of_answered hreceive, finish_waiting_of_answered hreceive,
                hlater answer, Outcome.andThen_after]
          | sending request next =>
              rw [finish_waiting_of_sending hreceive, finish_waiting_of_sending hreceive,
                ih c next resume hlater, Outcome.andThen_after]

/-- To run one procedure after the other is to run the second with the replies left over. -/
theorem run_bind (conn : Connection) (p : Procedure α) (f : α → Procedure β)
    (replies : List Reply) :
    run conn (p.bind f) replies = (run conn p replies).andThen conn f :=
  sequences_of_waiting (waitingSequences conn replies f) p

/-- A call that one request is sent for goes on with what the first reply says to it. -/
theorem run_call_of_single {c : Call} {request : Request} {progress : c.Progress}
    {entries : List LogEntry}
    (hstart : Exchange.start conn c = (entries, .sending request progress))
    (hreceive : ∀ response,
      Exchange.receive conn response c progress = ([], .answered (c.reading conn.now response)))
    (resume : c.Answer → Procedure α) (replies : List Reply) :
    run conn (.call c resume) replies =
      (run conn
          (resume ((⟨c, request, replies.head?.join⟩ : Exchanged).reading conn.now))
          replies.tail).after
        (entries.map .logged ++ [.sent c request]) := by
  rw [run_call_of_sending hstart]
  cases hreply : replies.head?.join with
  | none =>
      rw [finish_waiting_of_none progress resume hreply]
      rfl
  | some response =>
      obtain ⟨later, rfl⟩ : ∃ later, replies = some response :: later := by
        cases replies with
        | nil => cases hreply
        | cons reply later =>
            obtain rfl : reply = some response := hreply
            exact ⟨later, rfl⟩
      rw [finish_waiting_of_answered (hreceive response)]
      rfl

end Session

end RunnerRelease
