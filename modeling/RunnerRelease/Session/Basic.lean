import RunnerRelease.Session.Exchange

/-!
# Sessions

Procedures carried out over the wire, request by request.

## Implementation notes

A session is a procedure that waits for the reply to its last request, or one that
has ended. Its runs take the replies from a list; once that is used up, every further
request finds the connection closed. A run yields its result and everything that
could be observed of it, in order.
-/

namespace RunnerRelease

open Http

/-- Something that can be observed of a run. -/
inductive Event where
  | logged (entry : LogEntry)
  /-- A request has been sent for a call. -/
  | sent (c : Call) (request : Request)

namespace Event

/-- The requests among the events. -/
def requests (events : List Event) : List Request :=
  events.filterMap fun | .sent _ request => some request | .logged _ => none

/-- The log entries among the events. -/
def entries (events : List Event) : List LogEntry :=
  events.filterMap fun | .logged entry => some entry | .sent _ _ => none

end Event

/-- A procedure on its way. -/
inductive Session (α : Type) where
  | ended (result : α)
  /-- The request of a call has been sent, and its reply is waited for. -/
  | waiting (c : Call) (progress : c.Progress) (resume : c.Answer → Procedure α)

namespace Session

variable {α : Type}

/-- Carries a procedure on to its next request or to its end. -/
def advance (conn : Connection) : Procedure α → List Event × Session α
  | .done result => ([], .ended result)
  | .log entry next => (.logged entry :: (advance conn next).1, (advance conn next).2)
  | .call c resume =>
    let (entries, exchange) := Exchange.start conn c
    match exchange with
    | .answered answer =>
      (entries.map .logged ++ (advance conn (resume answer)).1, (advance conn (resume answer)).2)
    | .sending request progress =>
      (entries.map .logged ++ [.sent c request], .waiting c progress resume)

/-- Takes in the reply to the request that was sent last. -/
def receive (conn : Connection) (reply : Reply) : Session α → List Event × Session α
  | .ended result => ([], .ended result)
  | .waiting c progress resume =>
    match reply with
    | none => advance conn (resume c.unanswered)
    | some response =>
      let (entries, exchange) := Exchange.receive conn response c progress
      match exchange with
      | .answered answer =>
        (entries.map .logged ++ (advance conn (resume answer)).1,
          (advance conn (resume answer)).2)
      | .sending request progress =>
        (entries.map .logged ++ [.sent c request], .waiting c progress resume)

/-- Carries a procedure to its end while every request finds the connection closed. -/
def finishClosed (conn : Connection) : Procedure α → List Event × α
  | .done result => ([], result)
  | .log entry next => (.logged entry :: (finishClosed conn next).1, (finishClosed conn next).2)
  | .call c resume =>
    let (entries, exchange) := Exchange.start conn c
    match exchange with
    | .answered answer =>
      (entries.map .logged ++ (finishClosed conn (resume answer)).1,
        (finishClosed conn (resume answer)).2)
    | .sending request _ =>
      (entries.map .logged ++ .sent c request :: (finishClosed conn (resume c.unanswered)).1,
        (finishClosed conn (resume c.unanswered)).2)

/-- What a run comes to. -/
structure Outcome (α : Type) where
  events : List Event
  result : α
  /-- The replies that were not asked for. -/
  unused : List Reply

/-- Carries a session to its end with the given replies. -/
def finish (conn : Connection) : Session α → List Reply → Outcome α
  | .ended result, replies => ⟨[], result, replies⟩
  | .waiting c _ resume, [] =>
    ⟨(finishClosed conn (resume c.unanswered)).1,
      (finishClosed conn (resume c.unanswered)).2, []⟩
  | session, reply :: replies =>
    let (events, session) := receive conn reply session
    let outcome := finish conn session replies
    { outcome with events := events ++ outcome.events }

/-- Carries a procedure out with the given replies. -/
def run (conn : Connection) (p : Procedure α) (replies : List Reply) : Outcome α :=
  let (events, session) := advance conn p
  let outcome := finish conn session replies
  { outcome with events := events ++ outcome.events }

end Session

end RunnerRelease
