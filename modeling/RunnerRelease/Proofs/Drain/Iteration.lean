import RunnerRelease.Proofs.Drain.Round
import RunnerRelease.Proofs.Release.Repetition

/-!
# One iteration of the drain

The command up to the end of its first round. It sends nothing unless it is prepared, and a dry
run differs from any other by the deletion alone, with which an iteration ends where its tick has
let a pod go.

## Implementation notes

What is wanted of a run beyond its first round is the same again with the replies left over.
Interruptions are left out: they cut a run short and send nothing.
-/

namespace RunnerRelease.Drain

open Http Procedure

/-- The preparation of the command and, if nothing stands against it, one round. -/
def iteration (s : Surroundings) (a : Arguments) (replies : List Reply) :
    Session.Outcome Round :=
  match prepare s a with
  | (entries, .error exit) => ⟨entries.map .logged, .over exit, replies⟩
  | (entries, .ok (job, conn)) =>
      (Session.run conn (round job (.ofSeconds conn.now)) replies).after (entries.map .logged)

theorem cutAfter_never (past events : List Event) :
    cutAfter (fun _ => false) past events = (events, false) := by
  induction events generalizing past with
  | nil => rfl
  | cons event rest ih =>
      rw [cutAfter]
      simp [ih]

theorem exists_events_rounds (conn : Connection) (job : Job) (interrupts : List Event → Bool)
    (fuel : Nat) (past : List Event) (replies : List Reply) :
    ∃ later, (rounds conn job interrupts fuel past replies).events = past ++ later := by
  induction fuel generalizing past replies with
  | zero => exact ⟨_, rfl⟩
  | succ fuel ih =>
      rw [rounds]
      dsimp only
      split
      · exact ⟨_, List.append_assoc _ _ _⟩
      · split
        · exact ⟨_, rfl⟩
        · obtain ⟨later, hlater⟩ := ih (past ++ (cutAfter interrupts past
            (Session.run conn (round job (.ofSeconds conn.now)) replies).events).1)
            (Session.run conn (round job (.ofSeconds conn.now)) replies).unused
          exact ⟨_, hlater.trans (List.append_assoc _ _ _)⟩

/-- A run that is not interrupted begins with one iteration, and ends with it if that is over. -/
theorem run_begins_with_iteration (s : Surroundings) (a : Arguments) (replies : List Reply) :
    let run := run s a (fun _ => false) replies
    ∃ later, run.events = (iteration s a replies).events ++ later ∧
      ∀ exit, (iteration s a replies).result = .over exit → later = [] ∧ run.exit = exit := by
  intro run
  change ∃ later, (Drain.run s a (fun _ => false) replies).events = _ ++ later ∧
    ∀ exit, _ → later = [] ∧ (Drain.run s a (fun _ => false) replies).exit = exit
  rw [Drain.run, iteration]
  generalize prepare s a = prepared
  obtain ⟨entries, job⟩ := prepared
  cases job with
  | error exit =>
      refine ⟨[], (List.append_nil _).symm, ?_⟩
      rintro _ ⟨⟩
      exact ⟨rfl, rfl⟩
  | ok job =>
      obtain ⟨job, conn⟩ := job
      simp only [rounds, cutAfter_never, Session.Outcome.result_after,
        Session.Outcome.events_after]
      rcases (Session.run conn (round job (.ofSeconds conn.now)) replies).result with exit | after
      · refine ⟨[], (List.append_nil _).symm, ?_⟩
        rintro _ ⟨⟩
        exact ⟨rfl, rfl⟩
      · obtain ⟨later, hlater⟩ := exists_events_rounds conn job (fun _ => false) replies.length
          (entries.map .logged ++
            (Session.run conn (round job (.ofSeconds conn.now)) replies).events)
          (Session.run conn (round job (.ofSeconds conn.now)) replies).unused
        refine ⟨later, hlater, ?_⟩
        rintro _ ⟨⟩

/-- Whether a run is a dry one changes nothing of its preparation but that. -/
theorem prepare_dryRun (s : Surroundings) (a : Arguments) (dryRun : Bool) :
    prepare s { a with dryRun } =
      ((prepare s a).1, (prepare s a).2.map fun prepared =>
        ({ prepared.1 with dryRun }, prepared.2)) := by
  simp only [prepare]
  cases Scope.ofParts a.enterprise a.organization a.repository with
  | error problem => rfl
  | ok scope =>
      dsimp only
      cases (loadPolicy (s.files a.config)).2.check with
      | error problem => rfl
      | ok _ =>
          dsimp only
          cases connect s with
          | error exit => rfl
          | ok conn => rfl

/-- The run of the tick within an iteration, on the pod that the first reply brings. -/
def tickRun (conn : Connection) (job : Job) (replies : List Reply) :
    Option (Session.Outcome (Except Failure TickOutcome)) :=
  match podIn replies.head?.join with
  | .error _ => none
  | .ok pod =>
      some (Session.run conn (tick job.policy job.scope job.runner pod (.ofSeconds conn.now))
        replies.tail)

/-- The requests of a tick, if there has been one. -/
def tickRequests : Option (Session.Outcome (Except Failure TickOutcome)) → List Request
  | none => []
  | some outcome => Event.requests outcome.events

/-- The deletion, if there has been a tick that lets a pod go. -/
def deletion (delete : Request) :
    Option (Session.Outcome (Except Failure TickOutcome)) → List Request
  | none => []
  | some outcome => if releases outcome.result then [delete] else []

variable {s : Surroundings} {a : Arguments} {job : Job} {conn : Connection} {get delete : Request}

/-- The requests of an iteration that is prepared, dry or not. -/
theorem requests_iteration {entries : List LogEntry}
    (hprepare : prepare s a = (entries, .ok (job, conn)))
    (hget : Kubernetes.getRequest job.namespace job.pod = some get)
    (hdelete : Kubernetes.deleteRequest job.namespace job.pod = some delete)
    (replies : List Reply) (dryRun : Bool) :
    Event.requests (iteration s { a with dryRun } replies).events =
      get :: tickRequests (tickRun conn job replies) ++
        if dryRun then [] else deletion delete (tickRun conn job replies) := by
  have hdry : prepare s { a with dryRun } = (entries, .ok ({ job with dryRun }, conn)) := by
    rw [prepare_dryRun, hprepare]
    rfl
  have hgetDry : Kubernetes.getRequest ({ job with dryRun } : Job).namespace
      ({ job with dryRun } : Job).pod = some get := hget
  have hdeleteDry : Kubernetes.deleteRequest ({ job with dryRun } : Job).namespace
      ({ job with dryRun } : Job).pod = some delete := hdelete
  rw [iteration, hdry]
  dsimp only
  rw [Session.Outcome.requests_after, Event.requests_logged, List.nil_append, tickRun]
  cases hpod : podIn replies.head?.join with
  | error failure =>
      rw [requests_round_of_error hgetDry hpod]
      cases dryRun <;> rfl
  | ok pod =>
      rw [requests_round_of_ok hgetDry hdeleteDry hpod rfl]
      simp only [tickRequests, deletion]
      cases dryRun <;> simp

/-- A command that is not prepared sends nothing and ends with an error. -/
theorem iteration_of_unprepared (h : Unprepared s a) (replies : List Reply) :
    Event.requests (iteration s a replies).events = [] ∧
      ∃ message cause, (iteration s a replies).result = .over (.failure message cause) := by
  rcases prepare_cases s a with ⟨-, entries, message, cause, hprepare⟩ | ⟨_, _, _, -, hprepared⟩
  · rw [iteration, hprepare]
    exact ⟨Event.requests_logged entries, message, cause, rfl⟩
  · exact absurd h hprepared.not_unprepared

theorem exists_prepared (h : ¬ Unprepared s a) :
    ∃ entries job conn, prepare s a = (entries, .ok (job, conn)) ∧ Prepared s a job conn := by
  rcases prepare_cases s a with ⟨hunprepared, -⟩ | hprepared
  · exact absurd hunprepared h
  · exact hprepared

/-- The tick of an iteration asks for no deletion. -/
theorem not_deletePod_of_tickRun {replies : List Reply}
    {outcome : Session.Outcome (Except Failure TickOutcome)}
    (h : tickRun conn job replies = some outcome) («namespace» name : String) (request : Request) :
    Event.sent (.deletePod «namespace» name) request ∉ outcome.events := by
  rw [tickRun] at h
  split at h
  · cases h
  · cases h
    intro hsent
    exact not_isDeletion_of_tick (List.mem_filterMap.2 ⟨_, hsent, rfl⟩) rfl

/--
Only a pod that a tick has let go is deleted, and a dry run differs by this deletion alone. A
command that is not prepared ends with an error and has sent nothing. Any other asks for the pod,
then sends what its tick sends, if there is one, and last of all the deletion of the pod, if the
tick has let a pod go and the run is not a dry one.
-/
theorem released_pod_deleted (s : Surroundings) (a : Arguments) (replies : List Reply)
    {target : String} (htarget : Kubernetes.podTarget? a.namespace a.pod = some target) :
    let once := iteration s a replies
    let run := run s a (fun _ => false) replies
    let get : Request := { method := "GET", target, headers := [] }
    let delete : Request := {
      method := "DELETE", target, headers := [("content-type", "application/json")]
      body := some (.object []) }
    (∃ later, run.events = once.events ++ later ∧
      ∀ exit, once.result = .over exit → later = [] ∧ run.exit = exit) ∧
    (Unprepared s a → Event.requests once.events = [] ∧
      ∃ message cause, once.result = .over (.failure message cause)) ∧
    (¬ Unprepared s a → ∃ job conn, (prepare s a).2 = .ok (job, conn) ∧ Prepared s a job conn ∧
      let ticked := tickRun conn job replies
      Event.requests once.events =
          get :: tickRequests ticked ++ (if a.dryRun then [] else deletion delete ticked) ∧
        Event.requests (iteration s { a with dryRun := false } replies).events =
          Event.requests (iteration s { a with dryRun := true } replies).events ++
            deletion delete ticked ∧
        ∀ outcome, ticked = some outcome → ∀ «namespace» name request,
          Event.sent (.deletePod «namespace» name) request ∉ outcome.events) := by
  intro once run get delete
  refine ⟨run_begins_with_iteration s a replies, ?_, ?_⟩
  · intro hunprepared
    exact iteration_of_unprepared hunprepared replies
  · intro hprepared
    obtain ⟨entries, job, conn, hprepare, hprepared⟩ := exists_prepared hprepared
    have hget : Kubernetes.getRequest job.namespace job.pod = some get := by
      rw [hprepared.namespace, hprepared.pod, Kubernetes.getRequest, htarget, Option.map_some]
    have hdelete : Kubernetes.deleteRequest job.namespace job.pod = some delete := by
      rw [hprepared.namespace, hprepared.pod, Kubernetes.deleteRequest, htarget, Option.map_some]
    have hrequests := requests_iteration hprepare hget hdelete replies
    refine ⟨job, conn, by rw [hprepare], hprepared, ?_, ?_, ?_⟩
    · exact hrequests a.dryRun
    · rw [hrequests false, hrequests true]
      simp
    · intro outcome houtcome
      exact not_deletePod_of_tickRun houtcome

namespace Released

/-! The pod that is read has both markers, so it is let go at once. -/

def surroundings : Surroundings where
  environment := [("GITHUB_TOKEN", "t")]
  files := fun _ => none
  kubernetes := some { defaultNamespace := "default" }
  now := 0

def arguments : Arguments where
  «namespace» := "ci"
  pod := "runner"
  runner := none
  enterprise := none
  organization := some "o"
  repository := none
  config := "policy.yaml"
  dryRun := false
  jsonLogs := false

def pod : Pod := {
  metadata := {
    name := some "runner"
    annotations := some (.ofList [(startMarker, "x"), (completeMarker, "y")]) } }

def replies : List Reply := [
  some {
    status := 200
    body := Text.toBytes ("\x7b\"metadata\":\x7b\"name\":\"runner\",\"annotations\":\x7b\"" ++
      startMarker ++ "\":\"x\",\"" ++ completeMarker ++ "\":\"y\"\x7d\x7d\x7d") }]

theorem not_unprepared : ¬ Unprepared surroundings arguments := by
  rcases prepare_cases surroundings arguments with ⟨-, _, _, _, herror⟩ |
    ⟨_, _, _, -, hprepared⟩
  · have hprepares : (prepare surroundings arguments).2.isOk = true := by decide +kernel
    rw [herror] at hprepares
    cases hprepares
  · exact hprepared.not_unprepared

theorem podIn_replies : podIn replies.head?.join = .ok (some pod) := by decide +kernel

end Released

/-- A pod with both markers is deleted, and in a dry run only read. -/
theorem released_pod_deleted_at_once :
    let get : Request := {
      method := "GET", target := "/api/v1/namespaces/ci/pods/runner", headers := [] }
    let delete : Request := {
      method := "DELETE", target := "/api/v1/namespaces/ci/pods/runner"
      headers := [("content-type", "application/json")], body := some (.object []) }
    Event.requests (iteration Released.surroundings Released.arguments Released.replies).events =
        [get, delete] ∧
      Event.requests (iteration Released.surroundings { Released.arguments with dryRun := true }
        Released.replies).events = [get] := by
  intro get delete
  obtain ⟨-, -, hprepared⟩ := released_pod_deleted Released.surroundings Released.arguments
    Released.replies (by decide +kernel : Kubernetes.podTarget? "ci" "runner" =
      some "/api/v1/namespaces/ci/pods/runner")
  obtain ⟨job, conn, -, -, hrequests, hdry, -⟩ := hprepared Released.not_unprepared
  have hmarked : Released.pod.IsMarked := by
    intro key hkey
    simp only [markerKeys, List.mem_cons, List.not_mem_nil, or_false] at hkey
    rcases hkey with rfl | rfl
    · decide
    · decide
  obtain ⟨hresult, hnone⟩ := run_tick_of_isMarked conn job.policy job.scope job.runner hmarked
    (.ofSeconds conn.now) []
  have hticked : tickRun conn job Released.replies = some (Session.run conn
      (tick job.policy job.scope job.runner (some Released.pod) (.ofSeconds conn.now)) []) := by
    rw [tickRun, Released.podIn_replies]
    rfl
  have hnothing : tickRequests (tickRun conn job Released.replies) = [] := by
    rw [hticked]
    exact hnone
  have hdeletion : deletion delete (tickRun conn job Released.replies) = [delete] := by
    rw [hticked, deletion, hresult]
    rfl
  rw [hnothing, hdeletion] at hrequests
  rw [hdeletion] at hdry
  refine ⟨hrequests, ?_⟩
  exact List.append_cancel_right (hdry.symm.trans hrequests)

end RunnerRelease.Drain
