import RunnerRelease.Proofs.Release.Parts
import RunnerRelease.Proofs.Session.Sequence

/-!
# What the writing of an annotation sends

An annotation that is not there yet is written by a single request, which names that annotation
and the version of the pod, whatever else the pod holds. One that is there is left alone.

## Implementation notes

The three shapes of the annotations that a pod may have, none at all, an empty map and a map with
other keys, meet in `Pod.annotated`: what lacks the key gains it.
-/

namespace RunnerRelease

open Http Json MergePatch

namespace Pod

/-- A pod has become another one that differs by an annotation which the first one lacked. -/
structure Gains (before : Pod) (key value : String) (after : Pod) : Prop where
  lacking : before.annotated key = none
  annotated : ∀ other,
    after.annotated other = if key = other then some value else before.annotated other
  others : { after with
    metadata := { after.metadata with annotations := before.metadata.annotations } } = before

theorem gains_annotate {pod : Pod} {key : String} (value : String) (h : pod.annotated key = none) :
    pod.Gains key value (pod.annotate key value) where
  lacking := h
  annotated := pod.annotated_annotate key value
  others := rfl

/-- Applied to the pod that it was made for, the patch of a marker adds the marker. -/
theorem apply_markerPatch {pod : Pod} {key : String} (value : String)
    (h : pod.annotated key = none) :
    apply pod.toJson (markerPatch pod.metadata.resourceVersion key value) =
      (pod.annotate key value).toJson := by
  rw [← patchTo_annotate value h, patchTo]
  cases hversion : pod.metadata.resourceVersion with
  | none => exact apply_diff_of_plain pod.plain_toJson (pod.annotate key value).plain_toJson
  | some version =>
      calc
        apply pod.toJson (pinVersion version (diff pod.toJson (pod.annotate key value).toJson)) =
            ((pod.annotate key value).withVersion version).toJson :=
          apply_pinVersion_diff pod (pod.annotate key value) version
        _ = (pod.annotate key value).toJson := by
          rw [withVersion, annotate, ← hversion]

end Pod

variable {conn : Connection} {pod : Pod} {key : String}

theorem run_setIfAbsent_of_annotated {text : String} (h : pod.annotated key = some text)
    (value : String) (replies : List Reply) :
    Session.run conn (setIfAbsent pod key value) replies = ⟨[], .ok (.present pod), replies⟩ := by
  rw [setIfAbsent, h]
  exact Session.run_done _ _

/-- A key that is missing is written by one request, and the first reply says what became of it. -/
theorem run_setIfAbsent_of_lacking {request : Request} (h : pod.annotated key = none)
    (value : String)
    (hrequest : Kubernetes.patchRequest (conn.kubernetes.namespaceOf pod) pod.nameAny
      (Pod.markerPatch pod.metadata.resourceVersion key value) = some request)
    (replies : List Reply) :
    Event.requests (Session.run conn (setIfAbsent pod key value) replies).events = [request] ∧
      (Session.run conn (setIfAbsent pod key value) replies).result =
        (patched pod replies.head?.join).map .written := by
  have hstart : ∃ entries, Exchange.start conn (.patchPod pod (pod.annotate key value)) =
      (entries, .sending request ()) := by
    rw [Exchange.start, Pod.patchTo_annotate value h, hrequest]
    exact ⟨_, rfl⟩
  obtain ⟨entries, hstart⟩ := hstart
  rw [setIfAbsent, h]
  change Event.requests (Session.run conn (.call _ _) replies).events = _ ∧
    (Session.run conn (.call _ _) replies).result = _
  rw [Session.run_call_of_single hstart fun _ => rfl, reading_patchPod]
  cases patched pod replies.head?.join with
  | error failure => simp [Event.requests, Except.map]
  | ok stored => simp [Event.requests, Except.map]

/--
An annotation that a pod lacks is written by exactly one request. Its body is made of the
annotation, and of the version if the pod has one; applied to the pod it gives a pod that differs
by the annotation. Where the key is present, with whatever text, nothing is sent.
-/
theorem setIfAbsent_sends_annotation_alone (conn : Connection) (pod : Pod)
    (key value target : String) (replies : List Reply)
    (htarget : Kubernetes.podTarget? (conn.kubernetes.namespaceOf pod) pod.nameAny = some target) :
    let run := Session.run conn (setIfAbsent pod key value) replies
    match pod.annotated key with
    | some _ => run = ⟨[], .ok (.present pod), replies⟩
    | none =>
        let body := Json.object [("metadata", .ofFields [
          ("annotations", some (.object [(key, .string value)])),
          ("resourceVersion", pod.metadata.resourceVersion.map .string)])]
        Event.requests run.events = [{
          method := "PATCH", target
          headers := [("accept", "application/json"),
            ("content-type", "application/merge-patch+json")]
          body := some body }] ∧
        run.result = (patched pod replies.head?.join).map .written ∧
        ∃ after, apply pod.toJson body = after.toJson ∧ pod.Gains key value after := by
  intro run
  cases hkey : pod.annotated key with
  | some text => exact run_setIfAbsent_of_annotated hkey value replies
  | none =>
      obtain ⟨hrequests, hresult⟩ := run_setIfAbsent_of_lacking hkey value
        (by rw [Kubernetes.patchRequest, htarget, Option.map_some]) replies
      refine ⟨hrequests, hresult, pod.annotate key value, ?_, ?_⟩
      · exact Pod.apply_markerPatch value hkey
      · exact Pod.gains_annotate value hkey

/-- A pod without annotations gets its first one, and keeps its labels and its version. -/
theorem setIfAbsent_sends_first_annotation :
    let conn : Connection := {
      github := { baseUrl := "http://h", token := "t", userAgent := "a" }
      kubernetes := { defaultNamespace := "default" }
      now := 0 }
    let pod : Pod := { metadata := {
      name := some "runner", resourceVersion := some "7"
      labels := some (.ofList [("app", "runner")]) } }
    let body := Json.object [("metadata", .object [
      ("annotations", .object [("key", .string "value")]),
      ("resourceVersion", .string "7")])]
    Event.requests (Session.run conn (setIfAbsent pod "key" "value") []).events = [{
      method := "PATCH", target := "/api/v1/namespaces/default/pods/runner"
      headers := [("accept", "application/json"),
        ("content-type", "application/merge-patch+json")]
      body := some body }] ∧
    ∃ after, apply pod.toJson body = after.toJson ∧ pod.Gains "key" "value" after := by
  intro conn pod body
  obtain ⟨hrequests, -, hafter⟩ := setIfAbsent_sends_annotation_alone conn pod "key" "value"
    "/api/v1/namespaces/default/pods/runner" [] (by decide +kernel)
  exact ⟨hrequests, hafter⟩

end RunnerRelease
