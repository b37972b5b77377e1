import RunnerRelease.Pod.Json
import RunnerRelease.MergePatch

/-!
# Patches of pods

The patch by which a change of a pod is submitted, preconditioned on the version the
change was made from.
-/

namespace RunnerRelease.Pod

/-- Writes a version into the metadata of a patch. -/
def pinVersion (version : String) (patch : Json) : Json :=
  let ms := patch.members?.getD []
  let metadata := ((Members.get? ms "metadata").bind Json.members?).getD []
  .object (Members.insert ms "metadata"
    (.object (Members.insert metadata "resourceVersion" (.string version))))

/--
The merge patch from one pod to another; it names the version of the first, if that
has one, so that the patch is refused once the pod has moved on.
-/
def patchTo (base updated : Pod) : Json :=
  let patch := MergePatch.diff base.toJson updated.toJson
  match base.metadata.resourceVersion with
  | some version => pinVersion version patch
  | none => patch

end RunnerRelease.Pod
