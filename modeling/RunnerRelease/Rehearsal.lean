import RunnerRelease.Pod.Store
import RunnerRelease.Procedure

/-!
# Rehearsals

Runs of procedures against prepared answers instead of services: a listing, a result
of removals, and a store for one pod that can be made to fail.

## Implementation notes

A rehearsal records the calls in the order in which they are made, and the log
entries. A prepared failure of a patch takes precedence over the store's own answer
and leaves the store as it is.
-/

namespace RunnerRelease

/-- Prepared answers, and what has been met so far. -/
structure Rehearsal where
  store : PodStore := { stored := none, counter := 1 }
  listing : Except GitHub.Error (List Runner) := .ok []
  removal : Except GitHub.Error Unit := .ok ()
  /-- For each patch to come, how it is made to fail, if it is. -/
  failures : List (Option Failure) := []
  calls : List Call := []
  log : List LogEntry := []

namespace Rehearsal

/-- Answers a call and records it. -/
def answer (c : Call) : StateM Rehearsal c.Answer := fun r =>
  let r := { r with calls := r.calls ++ [c] }
  match c with
  | .listRunners _ => (r.listing, r)
  | .removeRunner _ _ => (r.removal, r)
  | .patchPod base updated =>
    let rest := r.failures.tail
    match r.failures.head?.join with
    | some failure => (.error failure, { r with failures := rest })
    | none =>
      let (result, store) := r.store.patch base updated
      (result, { r with failures := rest, store })
  | .getPod _ _ => (.ok r.store.stored, r)
  | .deletePod _ _ => (.ok (), { r with store := { r.store with stored := none } })

/-- Records a log entry. -/
def write (entry : LogEntry) : StateM Rehearsal Unit :=
  modify fun r => { r with log := r.log ++ [entry] }

/-- Runs a procedure against the prepared answers. -/
def run {α : Type} (r : Rehearsal) (p : Procedure α) : α × Rehearsal :=
  p.runWith answer write r

end Rehearsal

end RunnerRelease
