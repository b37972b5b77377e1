import RunnerRelease.Proofs.Release.Steps

/-!
# What warrants a release

A tick lets a pod go only on grounds that it has observed itself, or on the completion
marker of the pod it holds. It writes the completion marker only on such grounds.

## Implementation notes

Grounds are found in the answers of the runner service and in the pod that the tick held
when the listing was answered. The promises `MayAsk` and `MayReturn` speak of the answers
so far only, so they can be kept by a tick that is interrupted by others.
-/

namespace RunnerRelease

open Procedure

/-- The pod that is held after some answers: the one stored last, or else the one given. -/
def heldAfter (given : Pod) (answers : List Answered) : Pod :=
  answers.foldl (fun held answered => answered.stored?.getD held) given

theorem heldAfter_append (given : Pod) (a b : List Answered) :
    heldAfter given (a ++ b) = heldAfter (heldAfter given a) b :=
  List.foldl_append

/-- Answers that store no pod leave the pod that is held. -/
theorem heldAfter_of_stored?_eq_none {answers : List Answered}
    (h : ∀ a ∈ answers, a.stored? = none) (given : Pod) : heldAfter given answers = given := by
  induction answers generalizing given with
  | nil => rfl
  | cons a rest ih =>
      rw [heldAfter, List.foldl_cons, h a List.mem_cons_self]
      exact ih (fun b hb => h b (List.mem_cons_of_mem _ hb)) given

/--
What warrants the release of a runner's pod, as observed by one tick: the registration has
been removed; or there was none, and the pod that was held had stopped with success, or
the release of that pod had begun so long ago that the runner has had its time.
-/
inductive Warrant (policy : Policy) (scope : Scope) (runner : String) (now : Instant)
    (given : Pod) (answers : List Answered) : Prop
  | removed {before after : List Answered} {runners : List Runner} {entry : Runner}
      (hlist : answers = before ++ ⟨.listRunners scope, .ok runners⟩ :: after)
      (hentry : entry ∈ runners) (hname : entry.name = runner) (hid : entry.id ≠ 0)
      (hremove : ⟨.removeRunner scope entry.id, .ok ()⟩ ∈ after)
  | stopped {before after : List Answered} {runners : List Runner}
      (hlist : answers = before ++ ⟨.listRunners scope, .ok runners⟩ :: after)
      (habsent : ∀ entry ∈ runners, ¬ (entry.name = runner ∧ entry.id ≠ 0))
      (hstopped : (heldAfter given before).isStopped policy.container = true)
  | elapsed {before after : List Answered} {runners : List Runner}
      {text : String} {started deadline : Instant}
      (hlist : answers = before ++ ⟨.listRunners scope, .ok runners⟩ :: after)
      (habsent : ∀ entry ∈ runners, ¬ (entry.name = runner ∧ entry.id ≠ 0))
      (hmarker : (heldAfter given before).annotated startMarker = some text)
      (hstarted : Rfc3339.parse text = .ok started)
      (hdeadline : policy.deadline? started = some deadline) (hnow : deadline ≤ now)

variable {policy : Policy} {scope : Scope} {runner : String} {now : Instant} {given : Pod}

/-- What has been observed stays observed. -/
theorem Warrant.append {answers : List Answered}
    (h : Warrant policy scope runner now given answers) (more : List Answered) :
    Warrant policy scope runner now given (answers ++ more) := by
  cases h with
  | removed hlist hentry hname hid hremove =>
      exact .removed (by rw [hlist, List.append_assoc, List.cons_append]) hentry hname hid
        (List.mem_append_left _ hremove)
  | stopped hlist habsent hstopped =>
      exact .stopped (by rw [hlist, List.append_assoc, List.cons_append]) habsent hstopped
  | elapsed hlist habsent hmarker hstarted hdeadline hnow =>
      exact .elapsed (by rw [hlist, List.append_assoc, List.cons_append]) habsent hmarker
        hstarted hdeadline hnow

theorem not_registered_of_find?_eq_none {runners : List Runner}
    (h : runners.find? (Runner.registers runner) = none) :
    ∀ entry ∈ runners, ¬ (entry.name = runner ∧ entry.id ≠ 0) := by
  intro entry hentry
  have hno := List.find?_eq_none.1 h entry hentry
  simpa [Runner.registers] using hno

/-- No advice follows from a pod only if it has stopped or its release has had its time. -/
theorem judge_retry_eq_none {pod : Pod} (h : (judge policy pod now).retry policy = none) :
    pod.isStopped policy.container = true ∨
      ∃ text started deadline, pod.annotated startMarker = some text ∧
        Rfc3339.parse text = .ok started ∧ policy.deadline? started = some deadline ∧
        deadline ≤ now := by
  rw [judge] at h
  split at h
  · rename_i hstopped
    exact .inl hstopped
  · split at h
    · cases h
    · rename_i text htext
      split at h
      · cases h
      · rename_i started hstarted
        split at h
        · cases h
        · rename_i deadline hdeadline
          split at h
          · rename_i hnow
            exact .inr ⟨text, started, deadline, htext, hstarted, hdeadline, hnow⟩
          · cases h

/-- The answers of a decision store no pod. -/
theorem Decides.stored?_eq_none {pod : Option Pod} {answers : List Answered}
    {advice : Option Retry} (h : Decides policy scope runner pod now answers advice) :
    ∀ a ∈ answers, a.stored? = none := by
  cases h with
  | decided _ => simp
  | asked _ hask => cases hask <;> simp [Answered.stored?]

/-- A decision that lets an unmarked pod go is warranted. -/
theorem Decides.warrant {past answers : List Answered}
    (h : Decides policy scope runner (some (heldAfter given past)) now answers none)
    (hmark : (heldAfter given past).annotated completeMarker = none) :
    Warrant policy scope runner now given (past ++ answers) := by
  generalize hadvice : (none : Option Retry) = advice at h
  cases h with
  | decided hmarked => simp [hmark] at hmarked
  | asked _ hask =>
      cases hask with
      | unlisted error => cases hadvice
      | refused hfind error => cases hadvice
      | @removed runners entry hfind =>
          have hentry : entry.name = runner ∧ entry.id ≠ 0 := by
            simpa [Runner.registers] using List.find?_some hfind
          exact .removed rfl (List.mem_of_find?_eq_some hfind) hentry.1 hentry.2
            List.mem_cons_self
      | absent hfind =>
          have habsent := not_registered_of_find?_eq_none hfind
          rcases judge_retry_eq_none hadvice.symm with
            hstopped | ⟨text, started, deadline, htext, hstarted, hdeadline, hnow⟩
          · exact .stopped rfl habsent hstopped
          · exact .elapsed rfl habsent htext hstarted hdeadline hnow

/-- The pod given had the start marker, or the tick has written it. -/
def StartKnown (given : Pod) (answers : List Answered) : Prop :=
  (given.annotated startMarker).isSome ∨ ∃ base text stored,
    (⟨.patchPod base (base.annotate startMarker text), .ok stored⟩ : Answered) ∈ answers

theorem StartKnown.append {answers : List Answered} (h : StartKnown given answers)
    (more : List Answered) : StartKnown given (answers ++ more) := by
  rcases h with h | ⟨base, text, stored, hmem⟩
  · exact .inl h
  · exact .inr ⟨base, text, stored, List.mem_append_left _ hmem⟩

/--
The calls that a tick may make: patches add one marker that is missing to the pod that is
held, and the completion marker only after the start marker and with a warrant.
-/
def MayAsk (policy : Policy) (scope : Scope) (runner : String) (now : Instant) (given : Pod)
    (past : List Answered) : Call → Prop
  | .patchPod base updated => base = heldAfter given past ∧ ∃ key text,
      base.annotated key = none ∧ updated = base.annotate key text ∧
        (key = startMarker ∨ key = completeMarker ∧ StartKnown given past ∧
          Warrant policy scope runner now given past)
  | .listRunners _ | .removeRunner _ _ => True
  | .getPod _ _ | .deletePod _ _ => False

/-- The results of a tick: a pod goes with a warrant or with the completion marker. -/
def MayReturn (policy : Policy) (scope : Scope) (runner : String) (now : Instant) (given : Pod)
    (past : List Answered) : Except Failure TickOutcome → Prop
  | .ok (.safeToDelete (some _)) => Warrant policy scope runner now given past ∨
      ((heldAfter given past).annotated completeMarker).isSome
  | _ => True

/-- The pod that is held after a marker has been dealt with is the one that marking yields. -/
theorem Marks.heldAfter_eq {answers : List Answered} {key text : String} {held : Pod}
    (h : Marks given key text answers (.ok held)) : heldAfter given answers = held := by
  cases h with
  | present _ => rfl
  | asked _ _ => rfl

theorem ensures_markIfAny {asks : List Answered → Call → Prop} {pod : Pod}
    {key text stage : String} {past : List Answered}
    (h : pod.annotated key = none → asks past (.patchPod pod (pod.annotate key text))) :
    Ensures asks
      (fun later result => ∃ new marked, later = past ++ new ∧ Marks pod key text new marked ∧
        result = marked.map some)
      past (markIfAny (some pod) key text stage) := by
  rw [markIfAny]
  refine (ensures_mark h).bind fun later marked hmarked => ?_
  obtain ⟨new, rfl, hmarks⟩ := hmarked
  cases marked with
  | error failure => exact ⟨new, .error failure, rfl, hmarks, rfl⟩
  | ok held => exact ⟨new, .ok held, rfl, hmarks, rfl⟩

/-- A tick writes the completion marker and lets its pod go with a warrant only. -/
theorem ensures_tick (policy : Policy) (scope : Scope) (runner : String) (given : Pod)
    (now : Instant) :
    Ensures (MayAsk policy scope runner now given) (MayReturn policy scope runner now given) []
      (tick policy scope runner (some given) now) := by
  unfold tick
  refine (ensures_markIfAny fun hmissing => ?start).bind fun first result hmarked => ?rest
  case start => exact ⟨rfl, startMarker, _, hmissing, rfl, .inl rfl⟩
  case rest =>
    obtain ⟨_, marked, rfl, hmarks, rfl⟩ := hmarked
    cases marked with
    | error failure => trivial
    | ok held =>
        have hheld : heldAfter given first = held := hmarks.heldAfter_eq
        have hstart : StartKnown given first := by
          cases hmarks with
          | present hsome => exact .inl hsome
          | asked _ _ => exact .inr ⟨given, _, held, List.mem_cons_self⟩
        refine (ensures_decideRelease trivial fun _ _ _ => trivial).bind
          fun later advice hadvice => ?_
        obtain ⟨new, rfl, hdecides⟩ := hadvice
        have hsame : heldAfter given (first ++ new) = held := by
          rw [heldAfter_append, hheld,
            heldAfter_of_stored?_eq_none hdecides.stored?_eq_none]
        cases advice with
        | some retry => trivial
        | none =>
            have hwarrant (hmissing : held.annotated completeMarker = none) :
                Warrant policy scope runner now given (first ++ new) := by
              subst hheld
              exact hdecides.warrant hmissing
            refine (ensures_markIfAny fun hmissing => ?_).bind fun later result hmarked => ?_
            · exact ⟨hsame.symm, completeMarker, _, hmissing, rfl,
                .inr ⟨rfl, hstart.append new, hwarrant hmissing⟩⟩
            · obtain ⟨last, marked, rfl, hmarks, rfl⟩ := hmarked
              cases marked with
              | error failure => trivial
              | ok pod =>
                  cases hmarks with
                  | present hsome => exact .inr (by rwa [List.append_nil, hsame])
                  | asked hmissing _ => exact .inl ((hwarrant hmissing).append _)

end RunnerRelease
