import RunnerRelease.Proofs.Drain.Round
import RunnerRelease.Proofs.Release.Parts

/-!
# What a run deletes

A run of the drain deletes nothing but the pod that it is about, and that pod with its last
request and once at most. A dry run deletes nothing. This holds whatever replies come and
whenever the run is interrupted.

## Implementation notes

A round that another one follows has deleted nothing, which carries the induction on the rounds.
What an interruption leaves of the events of a round is a beginning of them.
-/

namespace RunnerRelease.Drain

open Procedure Http

/-- Calls that keep all pods, and behind them a deletion, if any and not in a dry run. -/
inductive DeletesLast (dryRun : Bool) (deletion : Call) : List Call → Prop
  | kept {calls : List Call} (h : ∀ c ∈ calls, ¬ c.isDeletion) : DeletesLast dryRun deletion calls
  | deleted {calls : List Call} (hdry : dryRun = false) (h : ∀ c ∈ calls, ¬ c.isDeletion) :
      DeletesLast dryRun deletion (calls ++ [deletion])

namespace DeletesLast

variable {dryRun : Bool} {deletion : Call} {before calls later : List Call}

/-- The first of the calls are no worse than all of them. -/
theorem left (h : DeletesLast dryRun deletion (calls ++ later)) :
    DeletesLast dryRun deletion calls := by
  generalize hall : calls ++ later = all at h
  cases h with
  | kept h =>
      subst hall
      apply kept
      intro c hc
      exact h c (List.mem_append_left later hc)
  | deleted hdry h =>
      rcases List.eq_nil_or_concat later with rfl | ⟨between, last, rfl⟩
      · rw [List.append_nil] at hall
        rw [hall]
        exact deleted hdry h
      · rw [List.concat_eq_append, ← List.append_assoc] at hall
        obtain ⟨rfl, -⟩ := List.append_inj' hall rfl
        apply kept
        intro c hc
        exact h c (List.mem_append_left between hc)

theorem after (hbefore : ∀ c ∈ before, ¬ c.isDeletion) (h : DeletesLast dryRun deletion calls) :
    DeletesLast dryRun deletion (before ++ calls) := by
  cases h with
  | kept h =>
      apply kept
      exact List.forall_mem_append.2 ⟨hbefore, h⟩
  | deleted hdry h =>
      rw [← List.append_assoc]
      apply deleted hdry
      exact List.forall_mem_append.2 ⟨hbefore, h⟩

end DeletesLast

/-- The calls of a round, after which the job is over if they delete a pod. -/
inductive RoundCalls (job : Job) : List Call → Round → Prop
  | kept {calls : List Call} (h : ∀ c ∈ calls, ¬ c.isDeletion) (result : Round) :
      RoundCalls job calls result
  | deleted {calls : List Call} (hdry : job.dryRun = false) (h : ∀ c ∈ calls, ¬ c.isDeletion)
      (exit : Exit) :
      RoundCalls job (calls ++ [.deletePod job.namespace job.pod]) (.over exit)

variable {job : Job} {conn : Connection} {calls : List Call} {result : Round}

theorem RoundCalls.deletesLast (h : RoundCalls job calls result) :
    DeletesLast job.dryRun (.deletePod job.namespace job.pod) calls := by
  cases h with
  | kept h _ => exact .kept h
  | deleted hdry h _ => exact .deleted hdry h

theorem RoundCalls.not_isDeletion_of_again {pause : TimeSpan}
    (h : RoundCalls job calls (.again pause)) : ∀ c ∈ calls, ¬ c.isDeletion := by
  cases h with
  | kept h _ => exact h

theorem ensures_letGo (pod : Pod) {past : List Answered}
    (h : ∀ c ∈ past.map Answered.call, ¬ c.isDeletion) :
    Ensures (fun _ _ => True)
      (fun answers result => RoundCalls job (answers.map Answered.call) result) past
      (letGo job pod) := by
  rw [letGo]
  by_cases hdry : job.dryRun = true
  · rw [if_pos hdry]
    exact .kept h _
  · rw [if_neg hdry]
    refine ⟨trivial, fun answer => ?_⟩
    have hcalls (exit : Exit) : RoundCalls job
        ((past ++ [(⟨.deletePod job.namespace job.pod, answer⟩ : Answered)]).map Answered.call)
        (.over exit) := by
      rw [List.map_append]
      exact .deleted (Bool.eq_false_iff.2 hdry) h exit
    cases answer with
    | error failure => exact hcalls _
    | ok _ => exact hcalls _

theorem Concludes.ensures {found : Except Failure TickOutcome} {p : Procedure Round}
    (h : Concludes job found p) {past : List Answered}
    (hpast : ∀ c ∈ past.map Answered.call, ¬ c.isDeletion) :
    Ensures (fun _ _ => True)
      (fun answers result => RoundCalls job (answers.map Answered.call) result) past p := by
  cases h with
  | letGo pod => exact ensures_letGo pod hpast
  | silent _ hsilent => exact hsilent.ensures fun result => .kept hpast result

/-- A round deletes nothing before its tick is over, and then the pod of its job at most. -/
theorem ensures_round (job : Job) (now : Instant) :
    Ensures (fun _ _ => True)
      (fun answers result => RoundCalls job (answers.map Answered.call) result) []
      (round job now) := by
  obtain ⟨failed, conclude, hround, hconclude⟩ := exists_concludes job now
  rw [hround]
  refine ⟨trivial, fun answer => ?_⟩
  cases answer with
  | error failure => exact .kept (by simp [Call.isDeletion]) _
  | ok pod =>
      have htick : Ensures (fun _ _ => True)
          (fun answers _ => ∀ c ∈ answers.map Answered.call, ¬ c.isDeletion)
          [⟨.getPod job.namespace job.pod, .ok pod⟩]
          (tick job.policy job.scope job.runner pod now) := by
        apply ensures_of_yields
        intro answers found hyields
        rw [List.map_append, List.forall_mem_append]
        constructor
        · simp [Call.isDeletion]
        · rw [List.forall_mem_map]
          exact (ticks_of_yields hyields).not_isDeletion
      apply htick.bind
      intro answers found hkept
      exact (hconclude found).ensures hkept

/-- A deletion takes one exchange at most. -/
theorem calls_of_carries_deletePod {«namespace» name : String}
    {deleted : Except Kubernetes.Failure Unit} {trace : List Exchanged}
    (h : Carries conn [⟨.deletePod «namespace» name, deleted⟩] trace) :
    trace.map Exchanged.call = [] ∨ trace.map Exchanged.call = [.deletePod «namespace» name] := by
  have hcall := h.completes
  rw [Exchange.start] at hcall
  cases hrequest : Kubernetes.deleteRequest «namespace» name with
  | none =>
      rw [hrequest] at hcall
      cases hcall
      exact .inl rfl
  | some request =>
      rw [hrequest] at hcall
      obtain ⟨reply, rfl, -⟩ := hcall.eq_singleton fun _ => rfl
      exact .inr rfl

/-- What holds of the calls that are answered holds of those that requests are sent for. -/
theorem RoundCalls.of_carries {answers : List Answered} {trace : List Exchanged}
    (h : RoundCalls job (answers.map Answered.call) result)
    (hcarries : Carries conn answers trace) :
    RoundCalls job (trace.map Exchanged.call) result := by
  have hkept {some : List Answered} {part : List Exchanged} (hpart : Carries conn some part)
      (hsome : ∀ c ∈ some.map Answered.call, ¬ c.isDeletion) :
      ∀ c ∈ part.map Exchanged.call, ¬ c.isDeletion := by
    rw [List.forall_mem_map] at hsome ⊢
    intro x hx
    obtain ⟨a, ha, hcall⟩ := hpart.exists_call hx
    rw [← hcall]
    exact hsome a ha
  generalize hcalls : answers.map Answered.call = calls at h
  cases h with
  | kept h _ =>
      subst hcalls
      exact .kept (hkept hcarries h) _
  | deleted hdry h exit =>
      obtain ⟨earlier, last, rfl, rfl, hlast⟩ := List.map_eq_append_iff.1 hcalls
      obtain ⟨⟨c, answer⟩, rfl, hc⟩ := List.map_eq_singleton_iff.1 hlast
      obtain rfl : c = .deletePod job.namespace job.pod := hc
      obtain ⟨first, rest, rfl, hfirst, hrest⟩ := hcarries.exists_append
      rw [List.map_append]
      rcases calls_of_carries_deletePod hrest with hnone | hone
      · rw [hnone, List.append_nil]
        exact .kept (hkept hfirst h) _
      · rw [hone]
        exact .deleted hdry (hkept hfirst h) exit

/-- The calls of a round, whatever replies it gets. -/
theorem roundCalls_run (conn : Connection) (job : Job) (now : Instant) (replies : List Reply) :
    RoundCalls job (Event.calls (Session.run conn (round job now) replies).events)
      (Session.run conn (round job now) replies).result := by
  obtain ⟨answers, hyields, hcarries⟩ := Session.accounts_run conn (round job now) replies
  have hcalls : RoundCalls job (answers.map Answered.call)
      (Session.run conn (round job now) replies).result :=
    (ensures_round job now).of_yields hyields
  rw [← calls_exchanged _ replies]
  exact hcalls.of_carries hcarries

/-- What is left of events that are cut short is a beginning of them. -/
theorem exists_append_cutAfter (test : List Event → Bool) (past events : List Event) :
    ∃ rest, events = (cutAfter test past events).1 ++ rest := by
  induction events generalizing past with
  | nil => exact ⟨[], rfl⟩
  | cons event events ih =>
      rw [cutAfter]
      split
      · exact ⟨events, rfl⟩
      · obtain ⟨rest, hrest⟩ := ih (past ++ [event])
        exact ⟨rest, congrArg (event :: ·) hrest⟩

theorem deletesLast_rounds (conn : Connection) (job : Job) (interrupts : List Event → Bool)
    (fuel : Nat) {past : List Event} (replies : List Reply)
    (hpast : ∀ c ∈ Event.calls past, ¬ c.isDeletion) :
    DeletesLast job.dryRun (.deletePod job.namespace job.pod)
      (Event.calls (rounds conn job interrupts fuel past replies).events) := by
  induction fuel generalizing past replies with
  | zero =>
      rw [rounds, Event.calls_append]
      exact .after hpast (.kept (by simp [Event.calls]))
  | succ fuel ih =>
      have hround := roundCalls_run conn job (.ofSeconds conn.now) replies
      rw [rounds]
      generalize Session.run conn (round job (.ofSeconds conn.now)) replies = once at hround
      obtain ⟨rest, hcut⟩ := exists_append_cutAfter interrupts past once.events
      rw [hcut, Event.calls_append] at hround
      dsimp only
      generalize cutAfter interrupts past once.events = cut at hround
      generalize once.result = result at hround
      obtain ⟨events, interrupted⟩ := cut
      have hevents : DeletesLast job.dryRun (.deletePod job.namespace job.pod)
          (Event.calls (past ++ events)) := by
        rw [Event.calls_append]
        exact .after hpast hround.deletesLast.left
      cases interrupted with
      | true =>
          rw [if_pos rfl, Event.calls_append]
          change DeletesLast _ _ (_ ++ [])
          rwa [List.append_nil]
      | false =>
          rw [if_neg Bool.false_ne_true]
          rcases result with exit | pause
          · exact hevents
          · apply ih
            rw [Event.calls_append, List.forall_mem_append]
            refine ⟨hpast, ?_⟩
            intro c hc
            exact hround.not_isDeletion_of_again c (List.mem_append_left _ hc)

/--
A run deletes nothing but the pod that it is asked to release, and that pod with its last request.
A dry run deletes nothing.
-/
theorem run_deletes_last (s : Surroundings) (a : Arguments) (interrupts : List Event → Bool)
    (replies : List Reply) :
    DeletesLast a.dryRun (.deletePod a.namespace a.pod)
      (Event.calls (run s a interrupts replies).events) := by
  rw [run]
  rcases prepare_cases s a with ⟨-, entries, message, cause, hprepare⟩ |
    ⟨entries, job, conn, hprepare, hprepared⟩
  · rw [hprepare]
    exact .kept (by simp)
  · rw [hprepare, ← hprepared.dryRun, ← hprepared.namespace, ← hprepared.pod]
    exact deletesLast_rounds conn job interrupts _ replies (by simp)

end RunnerRelease.Drain
