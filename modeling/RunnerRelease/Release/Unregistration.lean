import RunnerRelease.Procedure

/-!
# Unregistration

Removal of a runner's registration by the runner's name.

## Implementation notes

Whether the runner is busy is not asked beforehand: the runner service refuses to
remove a runner that runs a job, and that refusal is an error of its own kind.
-/

namespace RunnerRelease

/-- What became of an unregistration that met no error. -/
inductive Unregistration where
  /-- The runner was registered under this number and has been removed. -/
  | removed (id : Int)
  /-- No runner of the name is registered, be it not yet, no more or never. -/
  | notFound
deriving DecidableEq, Repr

/-- What log entries say of a runner and its scope. -/
def runnerFields (scope : Scope) (runner : Runner) : List (String × String) :=
  [("runner", runner.name), ("runner_id", toString runner.id),
    ("busy", if runner.busy then "true" else "false"), ("scope", scope.render)]

/-- Removes the registration of the runner with the given name, if there is one. -/
def unregister (scope : Scope) (name : String) :
    Procedure (Except GitHub.Error Unregistration) := do
  match ← Procedure.ask (.listRunners scope) with
  | .error error => return .error error
  | .ok runners =>
    match runners.find? (Runner.registers name) with
    | none =>
      Procedure.note {
        level := .debug, source := .registry
        message := s!"Runner not found among {runners.length} registrations"
        fields := [("runner", name), ("scope", scope.render)] }
      return .ok .notFound
    | some runner =>
      match ← Procedure.ask (.removeRunner scope runner.id) with
      | .error error =>
        Procedure.note {
          level := .warn, source := .registry
          message := "Failed to remove runner registration"
          fields := runnerFields scope runner ++ [("error", error.message)] }
        return .error error
      | .ok () =>
        Procedure.note {
          level := .info, source := .registry
          message := "Removed runner registration"
          fields := runnerFields scope runner }
        return .ok (.removed runner.id)

end RunnerRelease
