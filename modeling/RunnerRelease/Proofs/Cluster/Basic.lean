import RunnerRelease.Proofs.Pod.Marker
import RunnerRelease.Proofs.Release.Warrant
import RunnerRelease.Proofs.Session.Answers

/-!
# Ticks against one stored pod

A cluster that stores one pod, any number of ticks under way on it, and other clients that
write it. The steps are those of single requests, taken in any order.

## Implementation notes

The stored pod is a JSON value, since other clients may give it fields that no tick knows.
A tick begins when its pod is read, and any number of steps may pass before its first request
is answered, so ticks on pods that are out of date need no step of their own. A patch is
applied only when it names the version that is stored, and every write has a version assigned;
which versions may be assigned is left open, as a relation to those assigned before. The
answers of the runner service are arbitrary, and so is what becomes of a patch that is not
applied, as long as no pod is sent back. The reply to a patch that is applied may be lost.
-/

namespace RunnerRelease

open Http MergePatch Pod

/-- What a tick is to release. -/
structure Duty where
  policy : Policy
  scope : Scope
  runner : String

/-- A tick that is to be taken: what for, at which time and over which connection. -/
structure Job where
  duty : Duty
  now : Instant
  connection : Connection

namespace Job

/-- What a tick of the job does, given a pod. -/
def procedure (job : Job) (pod : Pod) : Procedure (Except Failure TickOutcome) :=
  tick job.duty.policy job.duty.scope job.duty.runner (some pod) job.now

end Job

/-- A tick under way, with what has been observed of it and what it has been told. -/
structure Worker where
  job : Job
  /-- The pod that it was given. -/
  given : Pod
  events : List Event
  answers : List Answered
  session : Session (Except Failure TickOutcome)

namespace Worker

/-- Begins a tick. -/
def start (job : Job) (pod : Pod) : Worker where
  job := job
  given := pod
  events := (Session.advance job.connection (job.procedure pod)).1
  answers := Session.advanceAnswers job.connection (job.procedure pod)
  session := (Session.advance job.connection (job.procedure pod)).2

/-- Takes in the reply to the request that was sent last. -/
def receive (reply : Reply) (worker : Worker) : Worker where
  job := worker.job
  given := worker.given
  events := worker.events ++ (Session.receive worker.job.connection reply worker.session).1
  answers := worker.answers ++
    Session.receiveAnswers worker.job.connection reply worker.session
  session := (Session.receive worker.job.connection reply worker.session).2

/-- The request whose reply is waited for. -/
def pending? (worker : Worker) : Option Request :=
  match worker.session with
  | .ended _ => none
  | .waiting _ _ _ => (Event.requests worker.events).getLast?

/-- The pod that the tick has let go, once it has. -/
def released? (worker : Worker) : Option Pod :=
  match worker.session with
  | .ended (.ok (.safeToDelete pod)) => pod
  | _ => none

/-- The pod that is held: the one stored last for the tick, or else the one given. -/
def held (worker : Worker) : Pod := heldAfter worker.given worker.answers

/-- The tick has observed what warrants the release of its pod. -/
def Warranted (worker : Worker) : Prop :=
  Warrant worker.job.duty.policy worker.job.duty.scope worker.job.duty.runner worker.job.now
    worker.given worker.answers

end Worker

/-- The stored pod, the versions assigned so far and the ticks under way. -/
structure Cluster where
  stored : Json
  versions : List String
  workers : List Worker

/-- The value of an annotation of the stored pod. -/
def Cluster.marker? (s : Cluster) (key : String) : Option Json :=
  s.stored.at? (annotationPath key)

/-- The keys of the progress markers. -/
def markerKeys : List String := [startMarker, completeMarker]

/-- The version has not been assigned before. -/
def Fresh (versions : List String) (version : String) : Prop := version ∉ versions

/-- No pod is sent back. -/
def Refuses (reply : Reply) : Prop :=
  ∀ response, reply = some response → ∃ failure, Kubernetes.readPod response = .error failure

/-- The body of a reply that grants the request denotes a value, if it is a document at all. -/
def Delivers (reply : Reply) (value : Json) : Prop :=
  ∀ response body document, reply = some response → Kubernetes.grantedBody response = .ok body →
    Json.parse body = some document → document.toJson? = some value

/-- A pod that was read from a reply was read from what the reply delivers. -/
theorem Delivers.readFrom {reply : Reply} {value : Json} {response : Response} {pod : Pod}
    (h : Delivers reply value) (hreply : reply = some response)
    (hread : Kubernetes.readPod response = .ok pod) : pod.ReadFrom value := by
  rw [Kubernetes.readPod] at hread
  split at hread
  · cases hread
  · rename_i body hbody
    split at hread
    · rename_i found hfound
      cases hread
      obtain ⟨document, hparse, hpod⟩ := Option.bind_eq_some_iff.1 hfound
      exact ⟨document, h response body document hreply hbody hparse, hpod⟩
    · cases hread

/-- What can be seen of a step. -/
inductive Action where
  /-- A tick begins with a pod that has been read from the store. -/
  | start (job : Job) (pod : Pod)
  /-- Another client writes the stored pod. -/
  | write (value : Json)
  /-- A request of a tick is answered, and nothing is stored for it. -/
  | answer (reply : Reply)
  /-- The patch that a tick has asked for is applied. -/
  | accept (patch : Json) (version : String)

/-- Whether a patch that writes a marker is applied. -/
def Action.writes (key : String) : Action → Bool
  | .accept patch _ => (patch.at? (annotationPath key)).isSome
  | _ => false

/-- One step of a cluster, where versions are assigned as a relation allows. -/
inductive Step (assigns : List String → String → Prop) : Cluster → Action → Cluster → Prop
  | start {s : Cluster} {job : Job} {pod : Pod} (hread : pod.ReadFrom s.stored) :
      Step assigns s (.start job pod) { s with workers := .start job pod :: s.workers }
  | write {s : Cluster} {value : Json} {version : String}
      (hmarkers : ∀ key ∈ markerKeys, value.at? (annotationPath key) = s.marker? key)
      (hversion : value.at? versionPath = some (.string version))
      (hassigns : assigns s.versions version) :
      Step assigns s (.write value)
        { s with stored := value, versions := version :: s.versions }
  | answer {s : Cluster} {before after : List Worker} {worker : Worker} {request : Request}
      {reply : Reply} (hworkers : s.workers = before ++ worker :: after)
      (hpending : worker.pending? = some request)
      (hkept : request.patch? = none ∨ Refuses reply) :
      Step assigns s (.answer reply)
        { s with workers := before ++ worker.receive reply :: after }
  | accept {s : Cluster} {before after : List Worker} {worker : Worker} {request : Request}
      {patch stored : Json} {version : String} {reply : Reply}
      (hworkers : s.workers = before ++ worker :: after)
      (hpending : worker.pending? = some request) (hpatch : request.patch? = some patch)
      (hmatch : patch.at? versionPath = s.stored.at? versionPath)
      (hassigns : assigns s.versions version)
      (hstored : (apply s.stored patch).assign? versionPath (.string version) = some stored)
      (hreply : Delivers reply stored) :
      Step assigns s (.accept patch version)
        { stored, versions := version :: s.versions
          workers := before ++ worker.receive reply :: after }

/-- A run: steps one after another, in any order that is possible. -/
inductive Run (assigns : List String → String → Prop) : Cluster → List Action → Cluster → Prop
  | nil {s : Cluster} : Run assigns s [] s
  | cons {s t u : Cluster} {action : Action} {actions : List Action}
      (hstep : Step assigns s action t) (hrun : Run assigns t actions u) :
      Run assigns s (action :: actions) u

/-- What every step preserves holds after every run. -/
theorem Run.preserves {assigns : List String → String → Prop} {holds : Cluster → Prop}
    (hstep : ∀ {s action t}, Step assigns s action t → holds s → holds t)
    {s t : Cluster} {actions : List Action} (hrun : Run assigns s actions t) (h : holds s) :
    holds t := by
  induction hrun with
  | nil => exact h
  | cons hfirst _ ih => exact ih (hstep hfirst h)

end RunnerRelease
