import RunnerRelease.Failure
import RunnerRelease.Pod.Basic

/-!
# A store for one pod

The part of the cluster that keeps a pod and its version.

## Implementation notes

A change is accepted only from the version that is stored, and gives the pod a fresh
one. Versions are the decimal texts of a counter, which also runs on its own.
-/

namespace RunnerRelease

/-- The pod that is stored, if any, and the counter from which versions are taken. -/
structure PodStore where
  stored : Option Pod
  counter : Nat
deriving DecidableEq

namespace PodStore

/-- Stores the changed pod if the pod it was made from has the version that is stored. -/
def patch (store : PodStore) (base updated : Pod) : Except Failure Pod × PodStore :=
  match store.stored with
  | none => (.error (.conflict base.nameAny), store)
  | some current =>
    if current.metadata.resourceVersion = base.metadata.resourceVersion then
      let counter := store.counter + 1
      let stored := updated.withVersion (toString counter)
      (.ok stored, { stored := some stored, counter })
    else (.error (.conflict base.nameAny), store)

/-- Gives the stored pod a fresh version without any other change. -/
def touch (store : PodStore) : PodStore :=
  let counter := store.counter + 1
  { stored := store.stored.map fun pod => pod.withVersion (toString counter), counter }

end PodStore

end RunnerRelease
