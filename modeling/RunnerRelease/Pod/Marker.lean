import RunnerRelease.Procedure

/-!
# Progress markers

The two annotations in which a release records its progress, and the writing of an
annotation that is not there yet.

## Implementation notes

A marker is never overwritten: where the key is present, whatever it is bound to, no
call is made. Otherwise a copy of the pod gets the key, and the difference between
the two is submitted.
-/

namespace RunnerRelease

/-- The annotation that says when the release began. -/
def startMarker : String := "unregistration-start-timestamp"

/-- The annotation that says when the pod was found safe to delete. -/
def completeMarker : String := "unregistration-complete-timestamp"

/-- What became of an annotation that was to be written. -/
inductive MarkerWrite where
  /-- The key was there already; the pod is the one given. -/
  | present (pod : Pod)
  /-- The key has been written; the pod is the one stored. -/
  | written (pod : Pod)
deriving DecidableEq

/-- Sets an annotation unless the pod has the key already. -/
def setIfAbsent (pod : Pod) (key value : String) : Procedure (Except Failure MarkerWrite) :=
  match pod.annotated key with
  | some _ => return .ok (.present pod)
  | none => do
    match ← Procedure.ask (.patchPod pod (pod.annotate key value)) with
    | .ok stored => return .ok (.written stored)
    | .error failure => return .error failure

end RunnerRelease
