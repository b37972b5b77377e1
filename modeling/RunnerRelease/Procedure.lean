import RunnerRelease.Failure
import RunnerRelease.GitHub.Runner
import RunnerRelease.Log.Entry
import RunnerRelease.Pod.Basic
import RunnerRelease.Scope

/-!
# Procedures

A procedure is a computation that calls the runner service and the cluster. It holds
what is done next for every answer, so that it can be run, taken apart call by call
and interleaved with others.

## Implementation notes

The calls are those of the services, not of their wire formats: listing is one call
however many pages it takes. `Session` takes procedures down to single requests.
A procedure is finite along every sequence of answers.
-/

namespace RunnerRelease

/-- A call to one of the services. -/
inductive Call where
  | listRunners (scope : Scope)
  | removeRunner (scope : Scope) (id : Int)
  /-- Submits the difference between two pods. -/
  | patchPod (base updated : Pod)
  | getPod («namespace» name : String)
  | deletePod («namespace» name : String)
deriving DecidableEq

/-- What a call is answered with. -/
abbrev Call.Answer : Call → Type
  | .listRunners _ => Except GitHub.Error (List Runner)
  | .removeRunner _ _ => Except GitHub.Error Unit
  | .patchPod _ _ => Except Failure Pod
  | .getPod _ _ => Except Kubernetes.Failure (Option Pod)
  | .deletePod _ _ => Except Kubernetes.Failure Unit

/-- A computation that makes calls and writes log entries. -/
inductive Procedure (α : Type) where
  | done (result : α)
  | log (entry : LogEntry) (next : Procedure α)
  | call (c : Call) (resume : c.Answer → Procedure α)

namespace Procedure

variable {α β : Type}

/-- Goes on with the result of a procedure. -/
def bind (p : Procedure α) (f : α → Procedure β) : Procedure β :=
  match p with
  | .done result => f result
  | .log entry next => .log entry (bind next f)
  | .call c resume => .call c fun answer => bind (resume answer) f

instance : Monad Procedure where
  pure := .done
  bind := .bind

@[simp] theorem pure_eq (a : α) : (pure a : Procedure α) = .done a := rfl

@[simp] theorem bind_eq (p : Procedure α) (f : α → Procedure β) : p >>= f = p.bind f := rfl

@[simp] theorem done_bind (a : α) (f : α → Procedure β) : (Procedure.done a).bind f = f a := rfl

@[simp] theorem log_bind (e : LogEntry) (p : Procedure α) (f : α → Procedure β) :
    (Procedure.log e p).bind f = .log e (p.bind f) := rfl

@[simp] theorem call_bind (c : Call) (k : c.Answer → Procedure α) (f : α → Procedure β) :
    (Procedure.call c k).bind f = .call c fun a => (k a).bind f := rfl

/-- Going on with the result as it is changes nothing. -/
theorem bind_done (p : Procedure α) : p.bind .done = p := by
  induction p with
  | done => rfl
  | log e p ih => simp [ih]
  | call c k ih => simp [ih]

/-- Continuations can be joined before or after. -/
theorem bind_assoc {γ : Type} (p : Procedure α) (f : α → Procedure β) (g : β → Procedure γ) :
    (p.bind f).bind g = p.bind fun a => (f a).bind g := by
  induction p with
  | done => rfl
  | log e p ih => simp [ih]
  | call c k ih => simp [ih]

instance : LawfulMonad Procedure :=
  LawfulMonad.mk' _ (fun p => bind_done p) (fun _ _ => rfl) (fun p f g => bind_assoc p f g)

/-- Writes a log entry. -/
def note (entry : LogEntry) : Procedure Unit := .log entry (.done ())

/-- Makes a call and yields its answer. -/
def ask (c : Call) : Procedure c.Answer := .call c .done

/-- Runs a procedure where calls are answered and entries are written by effects of a monad. -/
def runWith {m : Type → Type} [Monad m] (answer : (c : Call) → m c.Answer)
    (write : LogEntry → m Unit) : Procedure α → m α
  | .done result => pure result
  | .log entry next => do
    write entry
    runWith answer write next
  | .call c resume => do
    let a ← answer c
    runWith answer write (resume a)

end Procedure

end RunnerRelease
