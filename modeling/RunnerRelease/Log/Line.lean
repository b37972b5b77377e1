import RunnerRelease.Json.Printer
import RunnerRelease.Log.Entry

/-!
# Log entries as lines

The two forms in which a log entry is written: a line to read, and a line of JSON for
collectors of logs.
-/

namespace RunnerRelease.LogEntry

/-- The entry as a line of JSON. -/
def jsonLine (timestamp : String) (e : LogEntry) : String :=
  let fields := ("message", Json.string e.message) ::
    e.fields.map fun (name, value) => (name, .string value)
  Json.render (.object [
    ("timestamp", .string timestamp),
    ("level", .string e.level.name),
    ("fields", .object fields),
    ("target", .string e.source.target)])

/-- The entry as a line to read. -/
def plainLine (timestamp : String) (e : LogEntry) : String :=
  " ".intercalate ([timestamp, e.level.name, e.source.target ++ ":", e.message] ++
    e.fields.map fun (name, value) => name ++ "=" ++ value)

end RunnerRelease.LogEntry
