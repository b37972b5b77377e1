import RunnerRelease.Drain.Basic
import RunnerRelease.Log.Line
import RunnerRelease.Session.Relay
import Std.Time.DateTime.Timestamp

/-!
# The drain as a command

The command line of the drain. It has no connections of its own: requests go to
standard output, among the log, and their replies are read from standard input, one
line each. A pod that the cluster runs knows the cluster by a variable of its
environment; without that the command has no cluster to talk to.
-/

namespace RunnerRelease.Drain

/-- The variables that the command looks at. -/
def environmentVariables : List String :=
  ["POD_NAMESPACE", "RUNNER_ENTERPRISE", "RUNNER_ORG", "RUNNER_REPO", "LOG_JSON",
    "GITHUB_TOKEN", "GITHUB_API_URL", "RUST_LOG", "KUBERNETES_SERVICE_HOST"]

/-- The variables that are set. -/
def readEnvironment : IO Environment :=
  environmentVariables.filterMapM fun name =>
    return (← IO.getEnv name).map fun value => (name, value)

/-- The content of a file, absent when it cannot be read. -/
def readFile? (path : String) : IO (Option Text.Bytes) := do
  try
    return some (← IO.FS.readBinFile path).toList
  catch _ => return none

/-- The time in seconds since 1970. -/
def currentTime : IO Int := return (← Std.Time.Timestamp.now).toSecondsSinceUnixEpoch.val

/-- How a run writes its log. -/
structure LogStyle where
  filter : LogFilter
  json : Bool

/-- Writes an event. -/
def write (style : LogStyle) (event : Event) : IO Unit := do
  let output ← IO.getStdout
  match event with
  | .sent c request => output.putStrLn (Relay.requestLine c request)
  | .logged e =>
    if style.filter.shows e then
      let timestamp := Rfc3339.render (.ofSeconds (← currentTime))
      output.putStrLn (if style.json then e.jsonLine timestamp else e.plainLine timestamp)
  output.flush

/-- Carries a session to its end with the replies of the relay. -/
partial def converse {α : Type} [Inhabited α] (style : LogStyle) (conn : Connection)
    (session : Session α) : IO α := do
  match session with
  | .ended result => return result
  | session =>
    let line ← (← IO.getStdin).getLine
    let (events, session) := Session.receive conn (Relay.replyOfLine line) session
    events.forM (write style)
    converse style conn session

instance : Inhabited Round := ⟨.over .success⟩

/-- Takes rounds until the job is over. -/
partial def drive (style : LogStyle) (job : Job) (conn : Connection) : IO Exit := do
  let conn := { conn with now := ← currentTime }
  let (events, session) := Session.advance conn (round job (.ofSeconds conn.now))
  events.forM (write style)
  match ← converse style conn session with
  | .over exit => return exit
  | .again after =>
    IO.sleep (UInt32.ofNat (min (after.toNanos / 1000000) (UInt32.size - 1)))
    drive style job conn

/-- Runs the command with the given arguments. -/
def execute (environment : Environment) (arguments : Arguments) : IO Exit := do
  let style := {
    filter := LogFilter.ofText (environment.lookup "RUST_LOG")
    json := arguments.jsonLogs }
  let config ← readFile? arguments.config
  let surroundings := {
    environment
    files := fun path => if path = arguments.config then config else none
    kubernetes := (environment.lookup "KUBERNETES_SERVICE_HOST").map fun _ =>
      { defaultNamespace := "default" }
    now := ← currentTime }
  let (entries, prepared) := prepare surroundings arguments
  entries.forM fun e => write style (.logged e)
  match prepared with
  | .error exit => return exit
  | .ok (job, conn) => drive style job conn

/-- The line that says how the command is used. -/
def usageLine : String :=
  "Usage: runner-drain [OPTIONS] --pod <POD>"

end RunnerRelease.Drain

open RunnerRelease.Drain in
/-- Reads the command line, runs the command and reports how it ended. -/
def main (arguments : List String) : IO UInt32 := do
  let environment ← readEnvironment
  match Arguments.parse environment arguments with
  | .error .usage =>
    IO.eprintln usageLine
    return 2
  | .error .help =>
    IO.println usageLine
    return 0
  | .error .version =>
    IO.println versionLine
    return 0
  | .ok arguments =>
    let exit ← execute environment arguments
    match exit with
    | .success => pure ()
    | .failure message cause =>
      IO.eprintln ("Error: " ++ message)
      match cause with
      | none => pure ()
      | some cause => IO.eprintln ("\nCaused by:\n    " ++ cause)
    return UInt32.ofNat exit.code
