import RunnerRelease.Drain.Arguments
import RunnerRelease.Log.Filter
import RunnerRelease.Policy.Document
import RunnerRelease.Release.Tick
import RunnerRelease.Session.Basic

/-!
# The drain

The command that releases a single pod: it prepares a job from its arguments and its
environment, takes ticks until the pod may go, and deletes it.

## Implementation notes

The preparation goes through its steps in a fixed order, and the first that fails ends
the command. A round reads the pod, takes a tick and, where that lets the pod go,
deletes it; otherwise it says how long to wait before the next round.
-/

namespace RunnerRelease.Drain

open Http

/-- How the command ends. -/
inductive Exit where
  | success
  /-- The error that is reported, and what lies behind it. -/
  | failure (message : String) (cause : Option String)
deriving DecidableEq, Repr

/-- The code with which the command exits. -/
def Exit.code : Exit → Nat
  | .success => 0
  | .failure _ _ => 1

/-- What a run of the command is about. -/
structure Job where
  «namespace» : String
  pod : String
  runner : String
  scope : Scope
  policy : Policy
  dryRun : Bool

/-- What the command finds around it. -/
structure Surroundings where
  environment : Environment
  /-- The contents of files. -/
  files : String → Option Text.Bytes
  /-- Whether and how the cluster is reached. -/
  kubernetes : Option Kubernetes.Client
  /-- The time in seconds since 1970. -/
  now : Int

/-- A log entry of the command. -/
def entry (level : LogLevel) (message : String) (fields : List (String × String) := []) :
    LogEntry :=
  { level, source := .command, message, fields }

/-- The entry with which the command starts. -/
def startEntry (a : Arguments) : LogEntry :=
  entry .info s!"Starting runner drain v0.1.0 for pod {a.namespace}/{a.pod}"

/-- The beginning of the warning that the default policy is used. -/
def defaultPolicyWarning : String := "Failed to load configuration, using defaults"

/-- The policy in a file, or the default one with a warning. -/
def loadPolicy (content : Option Text.Bytes) : List LogEntry × Policy :=
  match Policy.ofFile content with
  | .ok policy => ([], policy)
  | .error problem =>
    ([entry .warn (defaultPolicyWarning ++ ": " ++
        (Failure.invalidPolicy problem.message).message)], {})

/-- The clients of a run, or why there is none. -/
def connect (s : Surroundings) : Except Exit Connection :=
  match s.kubernetes with
  | none => .error (.failure "Failed to connect to Kubernetes" none)
  | some kubernetes =>
    let bytes (name : String) := (s.environment.lookup name).map Text.toBytes
    let client := do
      GitHub.Client.ofSettings
        (← GitHub.Settings.ofEnvironment (bytes "GITHUB_TOKEN") (bytes "GITHUB_API_URL"))
    match client with
    | .error error => .error (.failure (Failure.github error).message none)
    | .ok github => .ok { github, kubernetes, now := s.now }

/-- Prepares a job and its clients. -/
def prepare (s : Surroundings) (a : Arguments) : List LogEntry × Except Exit (Job × Connection) :=
  match Scope.ofParts a.enterprise a.organization a.repository with
  | .error problem =>
    ([startEntry a], .error (.failure (Failure.invalidScope problem.message).message none))
  | .ok scope =>
    let (warnings, policy) := loadPolicy (s.files a.config)
    (startEntry a :: warnings,
      match policy.check with
      | .error problem =>
        .error (.failure "Invalid graceful stop configuration"
          (some (Failure.invalidPolicy problem.message).message))
      | .ok () =>
        match connect s with
        | .error exit => .error exit
        | .ok conn =>
          .ok ({
            «namespace» := a.namespace
            pod := a.pod
            runner := a.runner.getD a.pod
            scope, policy
            dryRun := a.dryRun }, conn))

/-- What a round comes to. -/
inductive Round where
  | over (exit : Exit)
  /-- Another round is due after some time. -/
  | again (after : TimeSpan)
deriving DecidableEq

/-- The shortest time between two rounds. -/
def shortestPause : TimeSpan := .ofSeconds 1

/-- How an optional text is shown. -/
def renderOption : Option String → String
  | none => "None"
  | some s => "Some(" ++ Text.quoted s ++ ")"

/-- Lets a pod go that is safe to delete. -/
def letGo (job : Job) (pod : Pod) : Procedure Round := do
  if job.dryRun then
    Procedure.note (entry .info s!"Runner pod {job.pod} is safe to delete (dry run)")
    return .over .success
  else
    match ← Procedure.ask (.deletePod job.namespace job.pod) with
    | .error failure =>
      return .over (.failure s!"Failed to delete pod {job.pod}" (some failure.message))
    | .ok () =>
      Procedure.note (entry .info s!"Deleted runner pod {job.pod}"
        [("resource_version", renderOption pod.metadata.resourceVersion)])
      return .over .success

/-- One round of a job. -/
def round (job : Job) (now : Instant) : Procedure Round := do
  match ← Procedure.ask (.getPod job.namespace job.pod) with
  | .error failure =>
    return .over (.failure s!"Failed to get pod {job.pod}" (some failure.message))
  | .ok pod =>
    match ← tick job.policy job.scope job.runner pod now with
    | .ok (.safeToDelete (some pod)) => letGo job pod
    | .ok (.safeToDelete none) =>
      Procedure.note (entry .info
        s!"Runner {job.runner} is unregistered and pod {job.pod} no longer exists")
      return .over .success
    | .ok (.retry advice) =>
      match advice.failure with
      | some failure =>
        Procedure.note (entry .warn
          s!"Graceful stop not finished, retrying in {advice.after.render}"
          [("error", failure.message)])
      | none => pure ()
      return .again (max advice.after shortestPause)
    | .error failure =>
      Procedure.note (entry .error "Graceful stop tick failed" [("error", failure.message)])
      return .again shortestPause

/-- The warning of a command that is interrupted. -/
def interruptedEntry : LogEntry := entry .warn "Interrupted, runner pod left in place"

/-- What a run of the command comes to. -/
structure Report where
  events : List Event
  exit : Exit

/--
The events up to the first after which a test holds of all that has happened, and
whether there is one.
-/
def cutAfter (test : List Event → Bool) : List Event → List Event → List Event × Bool
  | _, [] => ([], false)
  | past, e :: rest =>
    let past := past ++ [e]
    if test past then ([e], true)
    else (e :: (cutAfter test past rest).1, (cutAfter test past rest).2)

/--
Takes rounds with the given replies, until the job is over or the command is
interrupted, which is the case once the test holds of all events so far. The fuel is a
bound on the rounds; without it the command counts as interrupted while it waits.
-/
def rounds (conn : Connection) (job : Job) (interrupts : List Event → Bool) :
    Nat → List Event → List Reply → Report
  | 0, past, _ => ⟨past ++ [.logged interruptedEntry], .success⟩
  | fuel + 1, past, replies =>
    let outcome := Session.run conn (round job (.ofSeconds conn.now)) replies
    let (events, interrupted) := cutAfter interrupts past outcome.events
    if interrupted then ⟨past ++ events ++ [.logged interruptedEntry], .success⟩
    else
      match outcome.result with
      | .over exit => ⟨past ++ events, exit⟩
      | .again _ => rounds conn job interrupts fuel (past ++ events) outcome.unused

/-- Runs the command with the given replies. -/
def run (s : Surroundings) (a : Arguments) (interrupts : List Event → Bool)
    (replies : List Reply) : Report :=
  let (entries, prepared) := prepare s a
  let events := entries.map Event.logged
  match prepared with
  | .error exit => ⟨events, exit⟩
  | .ok (job, conn) => rounds conn job interrupts (replies.length + 1) events replies

/-- The log entries that a run shows. -/
def Report.shown (filter : LogFilter) (report : Report) : List LogEntry :=
  (Event.entries report.events).filter filter.shows

end RunnerRelease.Drain
