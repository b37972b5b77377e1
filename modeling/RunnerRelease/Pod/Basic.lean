import RunnerRelease.Members

/-!
# Pods

What a release needs to know of a pod: its metadata, the containers it was asked to
run and the state they are in.

## Implementation notes

Fields that a pod may lack are options, so that an absent list and an empty one stay
apart; the two are written differently. Exit codes and counters are integers, their
range being the reader's concern.

Most fields that a pod can have in a cluster are left out. They play no part in a release
and are the same on both sides of a patch, which does not name them for that reason.
-/

namespace RunnerRelease

/-- Names, version, labels and annotations of a pod. -/
structure Metadata where
  name : Option String := none
  generateName : Option String := none
  «namespace» : Option String := none
  resourceVersion : Option String := none
  uid : Option String := none
  labels : Option StringMap := none
  annotations : Option StringMap := none
  finalizers : Option (List String) := none
deriving DecidableEq

/-- A container that a pod is asked to run. -/
structure Container where
  name : String
  image : Option String := none
deriving DecidableEq

/-- What a pod is asked to be. -/
structure PodSpec where
  containers : List Container
  restartPolicy : Option String := none
  nodeName : Option String := none
deriving DecidableEq

/-- How a container ended. -/
structure Termination where
  exitCode : Int
  reason : Option String := none
  signal : Option Int := none
deriving DecidableEq

/-- Why a container has not started. -/
structure Waiting where
  reason : Option String := none
deriving DecidableEq

/-- The state of a container. -/
structure ContainerState where
  running : Bool := false
  waiting : Option Waiting := none
  terminated : Option Termination := none
deriving DecidableEq

/-- What is known of a container. -/
structure ContainerStatus where
  name : String := ""
  image : String := ""
  imageId : String := ""
  ready : Bool := false
  restartCount : Int := 0
  state : Option ContainerState := none
  lastState : Option ContainerState := none
deriving DecidableEq

/-- What is known of a pod. -/
structure PodStatus where
  phase : Option String := none
  reason : Option String := none
  message : Option String := none
  containers : Option (List ContainerStatus) := none
  initContainers : Option (List ContainerStatus) := none
  ephemeralContainers : Option (List ContainerStatus) := none
deriving DecidableEq

/-- A pod. -/
structure Pod where
  metadata : Metadata := {}
  spec : Option PodSpec := none
  status : Option PodStatus := none
deriving DecidableEq

namespace Pod

instance : Inhabited Pod := ⟨{}⟩

/-- The name of a pod, else the beginning of its name, else nothing. -/
def nameAny (pod : Pod) : String :=
  (pod.metadata.name <|> pod.metadata.generateName).getD ""

/-- The text of one of the pod's annotations. -/
def annotated (pod : Pod) (key : String) : Option String :=
  pod.metadata.annotations.bind fun annotations => annotations.get? key

/-- The pod with one annotation set. -/
def annotate (pod : Pod) (key value : String) : Pod :=
  { pod with metadata :=
    { pod.metadata with
      annotations := some ((pod.metadata.annotations.getD .empty).insert key value) } }

/-- The pod with another resource version. -/
def withVersion (pod : Pod) (version : String) : Pod :=
  { pod with metadata := { pod.metadata with resourceVersion := some version } }

/-- Whether a container with the given name has ended with exit code zero. -/
def containerSucceeded (name : String) (status : ContainerStatus) : Bool :=
  status.name == name &&
    (status.state.bind (·.terminated)).any fun termination => termination.exitCode == 0

/--
Whether the runner has ended by itself and with success: the pod as a whole has, or
the container that runs the runner.
-/
def isStopped (pod : Pod) (container : String) : Bool :=
  pod.status.any fun status =>
    status.phase == some "Succeeded" ||
      (status.containers.getD []).any (containerSucceeded container)

end Pod

end RunnerRelease
