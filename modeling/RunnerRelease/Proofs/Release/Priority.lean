import RunnerRelease.Proofs.Rehearsal
import RunnerRelease.Proofs.Release.Steps
import RunnerRelease.Proofs.Time.Instant

/-!
# The order of the rules

A decision follows a list of rules, of which the first that applies counts. The rule about
the completion marker has its place after the answers of the runner service; a decision asks
it first, and this is where it may differ from the list.

## Implementation notes

A rule is a function of its own, and what it may look at is collected beforehand. The list is
thus a second account of the decision, one that makes no calls.
-/

namespace RunnerRelease

open Procedure

/-- What an unregistration comes to, from the listing and from the answer to a removal. -/
def unregistration (name : String) (listing : Except GitHub.Error (List Runner))
    (removal : Except GitHub.Error Unit) : Except GitHub.Error Unregistration :=
  match listing with
  | .error error => .error error
  | .ok runners =>
      match runners.find? (Runner.registers name) with
      | none => .ok .notFound
      | some entry => removal.map fun _ => .removed entry.id

/-- The calls that an unregistration makes. -/
def unregistrationCalls (scope : Scope) (name : String)
    (listing : Except GitHub.Error (List Runner)) : List Call :=
  .listRunners scope ::
    (registered name listing).toList.map fun entry => .removeRunner scope entry.id

/-- What the rules look at. -/
structure Findings where
  outcome : Except GitHub.Error Unregistration
  pod : Option Pod
  now : Instant

/-- A rule says nothing where it does not apply, else the advice; no advice lets the pod go. -/
abbrev Rule := Findings → Option (Option Retry)

namespace Rule

/-- A service that asks for patience gets it; any other error is worth another attempt at once. -/
def failed (policy : Policy) : Rule := fun f =>
  match f.outcome with
  | .error (.rateLimited resetIn) => some (some {
      after := policy.rateLimitSpan, failure := some (.github (.rateLimited resetIn)) })
  | .error error => some (some { after := .zero, failure := some (.github error) })
  | .ok _ => none

/-- The registration has just been removed. -/
def removed : Rule := fun f =>
  match f.outcome with
  | .ok (.removed _) => some none
  | _ => none

/-- Nobody is registered and there is no pod. -/
def nobody : Rule := fun f =>
  match f.outcome, f.pod with
  | .ok .notFound, none => some none
  | _, _ => none

/-- The pod has been found safe to delete before. -/
def completed : Rule := fun f =>
  if (f.pod.bind (·.annotated completeMarker)).isSome then some none else none

/-- The runner has ended by itself and with success. -/
def stopped (policy : Policy) : Rule := fun f =>
  if f.pod.any (·.isStopped policy.container) then some none else none

/-- The release has begun: the runner is waited for until it has had its time. -/
def started (policy : Policy) : Rule := fun f =>
  (f.pod.bind (·.annotated startMarker)).map fun text =>
    match Rfc3339.parse text with
    | .error fault => some {
        after := policy.retrySpan, failure := some (.invalidMarker startMarker text fault) }
    | .ok start =>
        match start.add? policy.timeout.toNat with
        | none => some { after := policy.retrySpan }
        | some deadline => if f.now < deadline then some { after := policy.retrySpan } else none

/-- All rules in the order of their priority; the last resort is not among them. -/
def all (policy : Policy) : List Rule :=
  [failed policy, removed, nobody, completed, stopped policy, started policy]

end Rule

/-- The advice of the first rule that applies, or to come back after the usual delay. -/
def firstAdvice (policy : Policy) (findings : Findings) : Option Retry :=
  ((Rule.all policy).findSome? fun rule => rule findings).getD (some { after := policy.retrySpan })

variable {policy : Policy} {scope : Scope} {name : String} {pod : Option Pod} {now : Instant}

/-- The prepared answers decide what an unregistration comes to and which calls it makes. -/
theorem Unregisters.of_gives {service : Rehearsal} {answers : List Answered}
    {outcome : Except GitHub.Error Unregistration} (h : Unregisters scope name answers outcome)
    (hgives : ∀ a ∈ answers, service.Gives a) :
    outcome = unregistration name service.listing service.removal ∧
      answers.map Answered.call = unregistrationCalls scope name service.listing := by
  have hlisting : ∀ listing, (⟨.listRunners scope, listing⟩ : Answered) ∈ answers →
      service.listing = listing := fun _ hmem => (hgives _ hmem).symm
  have hremoval : ∀ id removal, (⟨.removeRunner scope id, removal⟩ : Answered) ∈ answers →
      service.removal = removal := fun _ _ hmem => (hgives _ hmem).symm
  cases h with
  | unlisted error =>
      rw [hlisting _ List.mem_cons_self]
      exact ⟨rfl, rfl⟩
  | absent hfind =>
      rw [hlisting _ List.mem_cons_self]
      constructor
      · simp [unregistration, hfind]
      · simp [unregistrationCalls, registered, hfind]
  | removed hfind =>
      rw [hlisting _ List.mem_cons_self, hremoval _ _ (List.mem_cons_of_mem _ List.mem_cons_self)]
      constructor
      · simp [unregistration, hfind, Except.map]
      · simp [unregistrationCalls, registered, hfind]
  | refused hfind error =>
      rw [hlisting _ List.mem_cons_self, hremoval _ _ (List.mem_cons_of_mem _ List.mem_cons_self)]
      constructor
      · simp [unregistration, hfind, Except.map]
      · simp [unregistrationCalls, registered, hfind]

/-- What a pod says of a missing registration is what the last two rules say of it. -/
theorem judge_retry (policy : Policy) (pod : Pod) (now : Instant) :
    (judge policy pod now).retry policy =
      ([Rule.stopped policy, Rule.started policy].findSome? fun rule =>
        rule ⟨.ok .notFound, some pod, now⟩).getD (some { after := policy.retrySpan }) := by
  rw [judge]
  by_cases hstopped : pod.isStopped policy.container = true
  · simp [Rule.stopped, hstopped, Judgement.retry]
  · cases hmarker : pod.annotated startMarker with
    | none => simp [Rule.stopped, Rule.started, hstopped, hmarker, Judgement.retry]
    | some text =>
        cases hparse : Rfc3339.parse text with
        | error fault =>
            simp [Rule.stopped, Rule.started, hstopped, hmarker, hparse, Judgement.retry]
        | ok start =>
            cases hdeadline : start.add? policy.timeout.toNat with
            | none =>
                simp [Rule.stopped, Rule.started, hstopped, hmarker, hparse, Policy.deadline?,
                  hdeadline, Judgement.retry]
            | some deadline =>
                by_cases hnow : deadline ≤ now
                · have hlate : ¬ now < deadline := fun hlt => Instant.not_le.2 hlt hnow
                  simp [Rule.stopped, Rule.started, hstopped, hmarker, hparse, Policy.deadline?,
                    hdeadline, hnow, hlate, Judgement.retry]
                · have hearly : now < deadline := Instant.not_le.1 hnow
                  simp [Rule.stopped, Rule.started, hstopped, hmarker, hparse, Policy.deadline?,
                    hdeadline, hnow, hearly, Judgement.retry]

/-- For a pod without the completion marker a decision is that of the first rule that applies. -/
theorem verdict_eq_firstAdvice {outcome : Except GitHub.Error Unregistration}
    (h : (pod.bind fun pod => pod.annotated completeMarker) = none) :
    verdict policy pod now outcome = firstAdvice policy ⟨outcome, pod, now⟩ := by
  have hcompleted : Rule.completed ⟨outcome, pod, now⟩ = none := by
    simp [Rule.completed, h]
  cases outcome with
  | error error =>
      cases error <;> rfl
  | ok unregistration =>
      cases unregistration with
      | removed id => rfl
      | notFound =>
          cases pod with
          | none => rfl
          | some pod =>
              rw [verdict, Option.bind_some, judge_retry, firstAdvice, Rule.all]
              simp only [List.findSome?_cons, hcompleted]
              rfl

/-- For a pod with the completion marker the rules let it go, unless the service fails. -/
theorem firstAdvice_of_completed {outcome : Except GitHub.Error Unregistration}
    (h : (pod.bind fun pod => pod.annotated completeMarker).isSome) :
    firstAdvice policy ⟨outcome, pod, now⟩ = none ∨ ∃ retry error,
      firstAdvice policy ⟨outcome, pod, now⟩ = some retry ∧ retry.failure = some (.github error) := by
  cases outcome with
  | error error => cases error <;> exact .inr ⟨_, _, rfl, rfl⟩
  | ok unregistration =>
      left
      cases unregistration with
      | removed id => rfl
      | notFound =>
          cases pod with
          | none => rfl
          | some pod =>
              rw [firstAdvice, Rule.all]
              simp only [List.findSome?_cons, Rule.completed, h, if_true]
              rfl

/--
Without the completion marker, a decision is that of the first rule that applies, after one
listing and one removal if the listing has an entry to remove. With the marker it lets the pod
go and makes no call; the rules differ from that only where the service fails.
-/
theorem decideRelease_follows_rules (policy : Policy) (scope : Scope) (runner : String)
    (pod : Option Pod) (now : Instant) (service : Rehearsal) :
    let findings : Findings := ⟨unregistration runner service.listing service.removal, pod, now⟩
    let decided := service.run (decideRelease policy scope runner pod now)
    match pod.bind fun pod => pod.annotated completeMarker with
    | none => decided.1 = firstAdvice policy findings ∧
        decided.2.calls = service.calls ++ unregistrationCalls scope runner service.listing
    | some _ => decided.1 = none ∧ decided.2.calls = service.calls ∧
        (firstAdvice policy findings = none ∨ ∃ retry error,
          firstAdvice policy findings = some retry ∧ retry.failure = some (.github error)) := by
  intro findings decided
  obtain ⟨answers, hyields, hgives, hcalls⟩ :=
    service.exists_yields_run (decideRelease policy scope runner pod now)
  have hensures : Ensures (fun _ _ => True)
      (fun later advice => ∃ new, later = [] ++ new ∧
        Decides policy scope runner pod now new advice)
      [] (decideRelease policy scope runner pod now) :=
    ensures_decideRelease trivial fun _ _ _ => trivial
  obtain ⟨new, hnew, hdecides⟩ := hensures.of_yields hyields
  obtain rfl : answers = new := hnew
  change Decides policy scope runner pod now answers decided.1 at hdecides
  change decided.2.calls = _ at hcalls
  generalize decided = decided at hdecides hcalls
  obtain ⟨advice, after⟩ := decided
  cases hdecides with
  | decided hsome =>
      obtain ⟨text, htext⟩ := Option.isSome_iff_exists.1 hsome
      rw [htext]
      exact ⟨rfl, by simpa using hcalls, firstAdvice_of_completed hsome⟩
  | asked hnone hask =>
      obtain ⟨rfl, hasked⟩ := hask.of_gives hgives
      rw [hnone]
      exact ⟨verdict_eq_firstAdvice hnone, hasked ▸ hcalls⟩

end RunnerRelease
