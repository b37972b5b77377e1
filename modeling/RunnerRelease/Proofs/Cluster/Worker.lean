import RunnerRelease.Proofs.Cluster.Basic

/-!
# Ticks under way

What holds of a tick at every point of its way, whatever it has been told: it keeps the
promises of a tick, and it waits for the reply to what it has sent. It follows what its
patches can be, and where the pod that it holds comes from.

## Implementation notes

Nothing here depends on what is stored. What is stored enters with the two properties of
replies, `Refuses` and `Delivers`, when the steps of a cluster are looked at.
-/

namespace RunnerRelease

open Procedure Http Pod

theorem StartKnown.of_append {given : Pod} {answers more : List Answered}
    (h : StartKnown given (answers ++ more)) (hmore : ∀ a ∈ more, a.stored? = none) :
    StartKnown given answers := by
  rcases h with hgiven | ⟨base, text, stored, hmem⟩
  · exact .inl hgiven
  · rcases List.mem_append.1 hmem with hold | hnew
    · exact .inr ⟨base, text, stored, hold⟩
    · cases hmore _ hnew

namespace Worker

/-- What holds of a tick at every point of its way. -/
structure Sound (worker : Worker) : Prop where
  ensures : Ensures
    (MayAsk worker.job.duty.policy worker.job.duty.scope worker.job.duty.runner worker.job.now
      worker.given)
    (MayReturn worker.job.duty.policy worker.job.duty.scope worker.job.duty.runner
      worker.job.now worker.given)
    worker.answers worker.session.procedure
  awaits : worker.session.Awaits worker.events

theorem sound_start (job : Job) (pod : Pod) : (start job pod).Sound where
  ensures := Session.ensures_advance job.connection (ensures_tick _ _ _ pod job.now)
  awaits := Session.awaits_advance job.connection (job.procedure pod)

theorem Sound.receive {worker : Worker} (h : worker.Sound) (reply : Reply) :
    (worker.receive reply).Sound where
  ensures := Session.ensures_receive worker.job.connection reply h.ensures
  awaits := (Session.awaits_receive worker.job.connection reply worker.session).append _

/-- A request that is waited for belongs to a call that the tick may make. -/
theorem Sound.exists_call {worker : Worker} (h : worker.Sound) {request : Request}
    (hpending : worker.pending? = some request) :
    ∃ c progress resume, worker.session = .waiting c progress resume ∧
      request.patch? = c.patch? ∧
      MayAsk worker.job.duty.policy worker.job.duty.scope worker.job.duty.runner
        worker.job.now worker.given worker.answers c := by
  have hensures := h.ensures
  have hawaits := h.awaits
  rw [pending?] at hpending
  cases hsession : worker.session with
  | ended result =>
      rw [hsession] at hpending
      cases hpending
  | waiting c progress resume =>
      rw [hsession] at hpending hensures hawaits
      obtain ⟨found, hfound, hpatch⟩ := hawaits
      have hsame : found = request := Option.some.inj (hfound.symm.trans hpending)
      exact ⟨c, progress, resume, rfl, hsame ▸ hpatch, hensures.1⟩

/--
A patch that a tick has asked for writes one marker that the pod it holds does not have;
the completion marker only with a warrant, and once the start marker is known to be there.
-/
theorem Sound.eq_markerPatch {worker : Worker} (h : worker.Sound) {request : Request}
    {patch : Json} (hpending : worker.pending? = some request)
    (hpatch : request.patch? = some patch) :
    ∃ key text, worker.held.annotated key = none ∧
      patch = markerPatch worker.held.metadata.resourceVersion key text ∧
      (key = startMarker ∨ key = completeMarker ∧ StartKnown worker.given worker.answers ∧
        worker.Warranted) := by
  obtain ⟨c, progress, resume, -, hcall, hmay⟩ := h.exists_call hpending
  rw [hcall] at hpatch
  cases c with
  | patchPod base updated =>
      obtain ⟨rfl, key, text, hmissing, rfl, hkey⟩ := hmay
      refine ⟨key, text, hmissing, ?_, hkey⟩
      rw [held, ← patchTo_annotate text hmissing]
      exact (Option.some.inj hpatch).symm
  | _ => cases hpatch

/-- A tick that lets its pod go has a warrant, or holds a pod with the completion marker. -/
theorem Sound.warranted_or_marked {worker : Worker} (h : worker.Sound) {pod : Pod}
    (hreleased : worker.released? = some pod) :
    worker.Warranted ∨ (worker.held.annotated completeMarker).isSome := by
  have hensures := h.ensures
  rw [released?] at hreleased
  split at hreleased
  · rename_i released hended
    subst hreleased
    rw [hended] at hensures
    exact hensures
  · cases hreleased

theorem Warranted.receive {worker : Worker} (h : worker.Warranted) (reply : Reply) :
    (worker.receive reply).Warranted :=
  h.append _

/-- A reply for which nothing is stored brings no pod. -/
theorem Sound.stored?_of_kept {worker : Worker} (h : worker.Sound) {request : Request}
    {reply : Reply} (hpending : worker.pending? = some request)
    (hkept : request.patch? = none ∨ Refuses reply) :
    ∀ a ∈ Session.receiveAnswers worker.job.connection reply worker.session,
      a.stored? = none := by
  have hbrings := Session.brings_receiveAnswers worker.job.connection reply worker.session
  generalize Session.receiveAnswers worker.job.connection reply worker.session = answers
    at hbrings ⊢
  cases hbrings with
  | nothing hnone => exact hnone
  | pod hreply hread hsession _ =>
      rcases hkept with hpatch | hrefuses
      · obtain ⟨c, progress, resume, hwaiting, hcall, -⟩ := h.exists_call hpending
        rw [hwaiting] at hsession
        cases hsession
        rw [hpatch] at hcall
        cases hcall
      · obtain ⟨failure, hfailure⟩ := hrefuses _ hreply
        rw [hread] at hfailure
        cases hfailure

theorem held_start (job : Job) (pod : Pod) : (start job pod).held = pod :=
  heldAfter_of_stored?_eq_none Session.stored?_of_mem_advanceAnswers pod

theorem held_receive_of_stored?_eq_none {worker : Worker} {reply : Reply}
    (h : ∀ a ∈ Session.receiveAnswers worker.job.connection reply worker.session,
      a.stored? = none) : (worker.receive reply).held = worker.held := by
  rw [held, Worker.receive, heldAfter_append, heldAfter_of_stored?_eq_none h, held]

/-- A tick goes on with the pod that it held, or with the one that the reply delivers. -/
theorem held_receive_of_delivers (worker : Worker) {reply : Reply} {value : Json}
    (h : Delivers reply value) :
    (worker.receive reply).held = worker.held ∨ (worker.receive reply).held.ReadFrom value := by
  have hbrings := Session.brings_receiveAnswers worker.job.connection reply worker.session
  generalize hanswers :
    Session.receiveAnswers worker.job.connection reply worker.session = answers at hbrings
  cases hbrings with
  | nothing hnone =>
      left
      rw [← hanswers] at hnone
      exact held_receive_of_stored?_eq_none hnone
  | @pod response pod base updated progress resume later hreply hread hsession hlater =>
      right
      have hheld : (worker.receive reply).held = pod := by
        rw [held, Worker.receive, hanswers, heldAfter_append]
        exact heldAfter_of_stored?_eq_none hlater pod
      rw [hheld]
      exact h.readFrom hreply hread

theorem Sound.held_receive_of_kept {worker : Worker} (h : worker.Sound) {request : Request}
    {reply : Reply} (hpending : worker.pending? = some request)
    (hkept : request.patch? = none ∨ Refuses reply) :
    (worker.receive reply).held = worker.held :=
  held_receive_of_stored?_eq_none (h.stored?_of_kept hpending hkept)

theorem startKnown_start {job : Job} {pod : Pod}
    (h : StartKnown (start job pod).given (start job pod).answers) :
    (pod.annotated startMarker).isSome := by
  have hall : StartKnown pod ([] ++ (start job pod).answers) := h
  have hgiven : StartKnown pod [] := hall.of_append Session.stored?_of_mem_advanceAnswers
  rcases hgiven with hsome | ⟨_, _, _, hmem⟩
  · exact hsome
  · cases hmem

theorem Sound.startKnown_of_kept {worker : Worker} (h : worker.Sound) {request : Request}
    {reply : Reply} (hpending : worker.pending? = some request)
    (hkept : request.patch? = none ∨ Refuses reply)
    (hknown : StartKnown (worker.receive reply).given (worker.receive reply).answers) :
    StartKnown worker.given worker.answers :=
  hknown.of_append (h.stored?_of_kept hpending hkept)

end Worker

/-- A property of all ticks stays one when one of them is replaced. -/
theorem forall_mem_replace {holds : Worker → Prop} {before after : List Worker}
    {worker replacement : Worker} (h : ∀ w ∈ before ++ worker :: after, holds w)
    (hnew : holds replacement) : ∀ w ∈ before ++ replacement :: after, holds w := by
  rw [List.forall_mem_append, List.forall_mem_cons] at h ⊢
  exact ⟨h.1, hnew, h.2.2⟩

end RunnerRelease
