/-!
# Runner registrations

A registration of a runner as the runner service lists it.

## Implementation notes

The number zero is not given to a registration. An entry that carries it is a
placeholder, which the search for a runner passes over.
-/

namespace RunnerRelease

/-- A registration of a runner. -/
structure Runner where
  id : Int
  name : String
  busy : Bool := false
  status : String := ""
deriving DecidableEq, Repr

/-- Whether an entry registers the runner with the given name. -/
def Runner.registers (name : String) (runner : Runner) : Bool :=
  runner.name == name && runner.id != 0

end RunnerRelease
