import RunnerRelease.Pod.Basic
import RunnerRelease.Json.Document

/-!
# Pods as JSON

The JSON form of pods: `Pod.toJson` writes it, `Pod.ofDocument?` reads it from a text.

## Implementation notes

Fields are written in key order and left out where they are absent, except those that
a container status, a container, a termination or a spec always has. When a pod is
read, null counts as absent, unknown fields are passed over, and a value of a wrong
type is refused, as is any kind of object other than a pod of version `v1`.
-/

namespace RunnerRelease

open Json Document

/-- The range of 32-bit integers. -/
def int32? : Document → Option Int := Document.int? (-2147483648) 2147483647

/-- A map of texts as an object. -/
def StringMap.toJson (m : StringMap) : Json :=
  .object (m.entries.map fun e => (e.1, .string e.2))

/-- Reads a map of texts. -/
def StringMap.ofDocument? (d : Document) : Option StringMap :=
  d.members?.bind fun ms =>
    (ms.mapM fun (m : String × Document) => m.2.string?.map fun s => (m.1, s)).map
      StringMap.ofList

/-- Reads a list, refusing it when one item cannot be read. -/
def listOf {α : Type} (read : Document → Option α) (d : Document) : Option (List α) :=
  d.items?.bind fun items => items.mapM read

namespace Metadata

/-- The JSON form of metadata. -/
def toJson (m : Metadata) : Json :=
  .ofFields [
    ("annotations", m.annotations.map StringMap.toJson),
    ("finalizers", m.finalizers.map fun fs => .array (fs.map .string)),
    ("generateName", m.generateName.map .string),
    ("labels", m.labels.map StringMap.toJson),
    ("name", m.name.map .string),
    ("namespace", m.namespace.map .string),
    ("resourceVersion", m.resourceVersion.map .string),
    ("uid", m.uid.map .string)]

/-- Reads metadata. -/
def ofDocument? (d : Document) : Option Metadata := do
  match ← d.fields? ["annotations", "finalizers", "generateName", "labels", "name",
      "namespace", "resourceVersion", "uid"] with
  | [annotations, finalizers, generateName, labels, name, ns, version, uid] =>
    return {
      annotations := ← optional StringMap.ofDocument? annotations
      finalizers := ← optional (listOf string?) finalizers
      generateName := ← optional string? generateName
      labels := ← optional StringMap.ofDocument? labels
      name := ← optional string? name
      «namespace» := ← optional string? ns
      resourceVersion := ← optional string? version
      uid := ← optional string? uid }
  | _ => none

end Metadata

namespace Container

/-- The JSON form of a container. -/
def toJson (c : Container) : Json :=
  .ofFields [("image", c.image.map .string), ("name", some (.string c.name))]

/-- Reads a container. -/
def ofDocument? (d : Document) : Option Container := do
  match ← d.fields? ["image", "name"] with
  | [image, name] =>
    return { image := ← optional string? image, name := (← optional string? name).getD "" }
  | _ => none

end Container

namespace PodSpec

/-- The JSON form of a spec. -/
def toJson (s : PodSpec) : Json :=
  .ofFields [
    ("containers", some (.array (s.containers.map Container.toJson))),
    ("nodeName", s.nodeName.map .string),
    ("restartPolicy", s.restartPolicy.map .string)]

/-- Reads a spec. -/
def ofDocument? (d : Document) : Option PodSpec := do
  match ← d.fields? ["containers", "nodeName", "restartPolicy"] with
  | [containers, nodeName, restartPolicy] =>
    return {
      containers := (← optional (listOf Container.ofDocument?) containers).getD []
      nodeName := ← optional string? nodeName
      restartPolicy := ← optional string? restartPolicy }
  | _ => none

end PodSpec

namespace ContainerState

/-- The JSON form of a termination. -/
def terminationToJson (t : Termination) : Json :=
  .ofFields [
    ("exitCode", some (.int t.exitCode)),
    ("reason", t.reason.map .string),
    ("signal", t.signal.map .int)]

/-- Reads a termination. -/
def termination? (d : Document) : Option Termination := do
  match ← d.fields? ["exitCode", "reason", "signal"] with
  | [exitCode, reason, signal] =>
    return {
      exitCode := (← optional int32? exitCode).getD 0
      reason := ← optional string? reason
      signal := ← optional int32? signal }
  | _ => none

/-- The JSON form of a container's state. -/
def toJson (s : ContainerState) : Json :=
  .ofFields [
    ("running", if s.running then some (.object []) else none),
    ("terminated", s.terminated.map terminationToJson),
    ("waiting", s.waiting.map fun w => .ofFields [("reason", w.reason.map .string)])]

/-- Reads the reason of a container that has not started. -/
def waiting? (d : Document) : Option Waiting := do
  match ← d.fields? ["reason"] with
  | [reason] => return { reason := ← optional string? reason }
  | _ => none

/-- Reads a container's state. -/
def ofDocument? (d : Document) : Option ContainerState := do
  match ← d.fields? ["running", "terminated", "waiting"] with
  | [running, terminated, waiting] =>
    return {
      running := (← optional members? running).isSome
      terminated := ← optional termination? terminated
      waiting := ← optional waiting? waiting }
  | _ => none

end ContainerState

namespace ContainerStatus

/-- The JSON form of a container status. -/
def toJson (s : ContainerStatus) : Json :=
  .ofFields [
    ("image", some (.string s.image)),
    ("imageID", some (.string s.imageId)),
    ("lastState", s.lastState.map ContainerState.toJson),
    ("name", some (.string s.name)),
    ("ready", some (.bool s.ready)),
    ("restartCount", some (.int s.restartCount)),
    ("state", s.state.map ContainerState.toJson)]

/-- Reads a container status. -/
def ofDocument? (d : Document) : Option ContainerStatus := do
  match ← d.fields? ["image", "imageID", "lastState", "name", "ready", "restartCount",
      "state"] with
  | [image, imageId, lastState, name, ready, restartCount, state] =>
    return {
      image := (← optional string? image).getD ""
      imageId := (← optional string? imageId).getD ""
      lastState := ← optional ContainerState.ofDocument? lastState
      name := (← optional string? name).getD ""
      ready := (← optional bool? ready).getD false
      restartCount := (← optional int32? restartCount).getD 0
      state := ← optional ContainerState.ofDocument? state }
  | _ => none

end ContainerStatus

namespace PodStatus

/-- The JSON form of a list of container statuses. -/
def statusesToJson (statuses : List ContainerStatus) : Json :=
  .array (statuses.map ContainerStatus.toJson)

/-- The JSON form of a pod's status. -/
def toJson (s : PodStatus) : Json :=
  .ofFields [
    ("containerStatuses", s.containers.map statusesToJson),
    ("ephemeralContainerStatuses", s.ephemeralContainers.map statusesToJson),
    ("initContainerStatuses", s.initContainers.map statusesToJson),
    ("message", s.message.map .string),
    ("phase", s.phase.map .string),
    ("reason", s.reason.map .string)]

/-- Reads a pod's status. -/
def ofDocument? (d : Document) : Option PodStatus := do
  match ← d.fields? ["containerStatuses", "ephemeralContainerStatuses",
      "initContainerStatuses", "message", "phase", "reason"] with
  | [containers, ephemeral, init, message, phase, reason] =>
    return {
      containers := ← optional (listOf ContainerStatus.ofDocument?) containers
      ephemeralContainers := ← optional (listOf ContainerStatus.ofDocument?) ephemeral
      initContainers := ← optional (listOf ContainerStatus.ofDocument?) init
      message := ← optional string? message
      phase := ← optional string? phase
      reason := ← optional string? reason }
  | _ => none

end PodStatus

namespace Pod

/-- The JSON form of a pod. -/
def toJson (pod : Pod) : Json :=
  .ofFields [
    ("apiVersion", some (.string "v1")),
    ("kind", some (.string "Pod")),
    ("metadata", some pod.metadata.toJson),
    ("spec", pod.spec.map PodSpec.toJson),
    ("status", pod.status.map PodStatus.toJson)]

/-- Reads a pod. -/
def ofDocument? (d : Document) : Option Pod := do
  match ← d.fields? ["apiVersion", "kind", "metadata", "spec", "status"] with
  | [version, kind, metadata, spec, status] =>
    if ((← optional string? version).getD "v1") == "v1" &&
        ((← optional string? kind).getD "Pod") == "Pod" then
      return {
        metadata := (← optional Metadata.ofDocument? metadata).getD {}
        spec := ← optional PodSpec.ofDocument? spec
        status := ← optional PodStatus.ofDocument? status }
    else none
  | _ => none

end Pod

end RunnerRelease
