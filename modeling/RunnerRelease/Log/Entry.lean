/-!
# Log entries

What a run reports about itself: a level, the part of the program that speaks, a
message and named details.
-/

namespace RunnerRelease

/-- How much a log entry matters. -/
inductive LogLevel where
  | error
  | warn
  | info
  | debug
deriving DecidableEq, Repr

namespace LogLevel

/-- The name under which a level is written. -/
def name : LogLevel → String
  | .error => "ERROR"
  | .warn => "WARN"
  | .info => "INFO"
  | .debug => "DEBUG"

/-- The rank of a level; a higher one is less important. -/
def rank : LogLevel → Nat
  | .error => 1
  | .warn => 2
  | .info => 3
  | .debug => 4

end LogLevel

/-- The part of the program that speaks. -/
inductive LogSource where
  | release
  | registry
  | runnerService
  | podMarkers
  | command
deriving DecidableEq, Repr

/-- The target under which a part's entries are selected. -/
def LogSource.target : LogSource → String
  | .release => "runner_controller::graceful_stop"
  | .registry => "runner_controller::github::registry"
  | .runnerService => "runner_controller::github::client"
  | .podMarkers => "runner_controller::pod::annotations"
  | .command => "runner_drain"

/-- A log entry. -/
structure LogEntry where
  level : LogLevel
  source : LogSource
  message : String
  fields : List (String × String) := []
deriving DecidableEq, Repr

end RunnerRelease
