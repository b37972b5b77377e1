import RunnerRelease.Proofs.Pod.Marker
import RunnerRelease.Proofs.Release.Warrant
import RunnerRelease.Proofs.Session.Failures

/-!
# The course of a tick

The answers that a tick is given, part by part, and the result that they lead to. A call that
fails is the last one of its tick and decides the result: where a marker could not be written
the tick fails with it, and where the runner service failed the tick is to be repeated.
-/

namespace RunnerRelease

open Procedure

/-- The answers that the writing of a marker is given where there may be no pod. -/
inductive MarksIfAny (key text : String) :
    Option Pod → List Answered → Except Failure (Option Pod) → Prop
  | nobody : MarksIfAny key text none [] (.ok none)
  | somebody {pod : Pod} {answers : List Answered} {marked : Except Failure Pod}
      (hmarks : Marks pod key text answers marked) :
      MarksIfAny key text (some pod) answers (marked.map some)

theorem MarksIfAny.exists_marks {pod : Pod} {key text : String} {answers : List Answered}
    {marked : Except Failure (Option Pod)} (h : MarksIfAny key text (some pod) answers marked) :
    ∃ result, Marks pod key text answers result ∧ marked = result.map some := by
  cases h with
  | somebody hmarks => exact ⟨_, hmarks, rfl⟩

theorem ensures_marksIfAny (pod : Option Pod) (key text stage : String) (past : List Answered) :
    Ensures (fun _ _ => True)
      (fun later result => ∃ new, later = past ++ new ∧ MarksIfAny key text pod new result)
      past (markIfAny pod key text stage) := by
  cases pod with
  | none => exact ⟨[], by simp, .nobody⟩
  | some pod =>
      refine (ensures_markIfAny fun _ => trivial).mono ?_
      rintro _ _ ⟨new, marked, rfl, hmarks, rfl⟩
      exact ⟨new, rfl, .somebody hmarks⟩

/-- The answers that a tick is given, and its result. -/
inductive Ticks (policy : Policy) (scope : Scope) (runner : String) (pod : Option Pod)
    (now : Instant) : List Answered → Except Failure TickOutcome → Prop
  | unstarted {first : List Answered} {failure : Failure}
      (hstart : MarksIfAny startMarker (Rfc3339.render now) pod first (.error failure)) :
      Ticks policy scope runner pod now first (.error failure)
  | advised {first middle : List Answered} {held : Option Pod} {advice : Retry}
      (hstart : MarksIfAny startMarker (Rfc3339.render now) pod first (.ok held))
      (hdecide : Decides policy scope runner held now middle (some advice)) :
      Ticks policy scope runner pod now (first ++ middle) (.ok (.retry advice))
  | completed {first middle last : List Answered} {held : Option Pod}
      {completed : Except Failure (Option Pod)}
      (hstart : MarksIfAny startMarker (Rfc3339.render now) pod first (.ok held))
      (hdecide : Decides policy scope runner held now middle none)
      (hcomplete : MarksIfAny completeMarker (Rfc3339.render now) held last completed) :
      Ticks policy scope runner pod now (first ++ middle ++ last)
        (completed.map TickOutcome.safeToDelete)

variable {policy : Policy} {scope : Scope} {runner : String} {pod : Option Pod} {now : Instant}
  {answers : List Answered}

theorem ensures_ticks (policy : Policy) (scope : Scope) (runner : String) (pod : Option Pod)
    (now : Instant) :
    Ensures (fun _ _ => True) (Ticks policy scope runner pod now) []
      (tick policy scope runner pod now) := by
  unfold tick
  refine (ensures_marksIfAny pod _ _ _ []).bind fun _ started hstarted => ?_
  obtain ⟨first, rfl, hstart⟩ := hstarted
  cases started with
  | error failure => exact .unstarted hstart
  | ok held =>
      refine (ensures_decideRelease trivial fun _ _ _ => trivial).bind fun _ advice hadvice => ?_
      obtain ⟨middle, rfl, hdecide⟩ := hadvice
      cases advice with
      | some advice => exact .advised hstart hdecide
      | none =>
          refine (ensures_marksIfAny held _ _ _ _).bind fun _ completed hcompleted => ?_
          obtain ⟨last, rfl, hcomplete⟩ := hcompleted
          cases completed with
          | error failure => exact .completed hstart hdecide hcomplete
          | ok released => exact .completed hstart hdecide hcomplete

/-- Whatever the calls of a tick are answered with, the tick takes one of its courses. -/
theorem ticks_of_yields {result : Except Failure TickOutcome}
    (h : (tick policy scope runner pod now).Yields answers result) :
    Ticks policy scope runner pod now answers result :=
  (ensures_ticks policy scope runner pod now).of_yields h

theorem MarksIfAny.yields {key text : String} {marked : Except Failure (Option Pod)}
    (h : MarksIfAny key text pod answers marked) (stage : String) :
    (markIfAny pod key text stage).Yields answers marked := by
  cases h with
  | nobody => exact .done _
  | @somebody pod answers marked hmarks =>
      rw [markIfAny, ← List.append_nil answers]
      refine (hmarks.yields stage).bind ?_
      cases marked with
      | error failure => exact .done _
      | ok held => exact .done _

/-- A tick can take each of its courses. -/
theorem Ticks.yields {result : Except Failure TickOutcome}
    (h : Ticks policy scope runner pod now answers result) :
    (tick policy scope runner pod now).Yields answers result := by
  unfold tick
  cases h with
  | unstarted hstart =>
      rw [← List.append_nil answers]
      exact (hstart.yields "started").bind (.done _)
  | @advised first middle _ _ hstart hdecide =>
      refine (hstart.yields "started").bind ?_
      rw [← List.append_nil middle]
      exact hdecide.yields.bind (.done _)
  | @completed first middle last _ completed hstart hdecide hcomplete =>
      rw [List.append_assoc]
      refine (hstart.yields "started").bind (hdecide.yields.bind ?_)
      rw [← List.append_nil last]
      refine (hcomplete.yields "completed").bind ?_
      cases completed with
      | error failure => exact .done _
      | ok released => exact .done _

/-- Whether a call asks the cluster for a change of a pod. -/
def Call.isPatch : Call → Bool
  | .patchPod _ _ => true
  | _ => false

/-- Whether a call is made to the runner service. -/
def Call.isToRunnerService : Call → Bool
  | .listRunners _ | .removeRunner _ _ => true
  | _ => false

/-- The calls for a marker ask for patches that write it. -/
theorem MarksIfAny.exists_markerPatch {key text : String} {marked : Except Failure (Option Pod)}
    (h : MarksIfAny key text pod answers marked) : ∀ a ∈ answers,
      a.call.isPatch ∧ ∃ version, a.call.patch? = some (Pod.markerPatch version key text) := by
  cases h with
  | nobody => simp
  | somebody hmarks =>
      cases hmarks with
      | present _ => simp
      | asked hmissing _ =>
          rw [List.forall_mem_singleton]
          exact ⟨rfl, _, congrArg some (Pod.patchTo_annotate text hmissing)⟩

theorem Decides.isToRunnerService {advice : Option Retry}
    (h : Decides policy scope runner pod now answers advice) :
    ∀ a ∈ answers, a.call.isToRunnerService := by
  cases h with
  | decided _ => simp
  | asked _ hask => cases hask <;> simp [Call.isToRunnerService]

theorem Call.not_isToRunnerService_of_isPatch {c : Call} (h : c.isPatch) :
    ¬ c.isToRunnerService := by
  cases c <;> simp [isPatch, isToRunnerService] at h ⊢

theorem Call.patch?_eq_none_of_isToRunnerService {c : Call} (h : c.isToRunnerService) :
    c.patch? = none := by
  cases c <;> simp [isToRunnerService, patch?] at h ⊢

/-- A tick begins with the start marker; all later patches write the completion marker. -/
theorem Ticks.exists_start {result : Except Failure TickOutcome}
    (h : Ticks policy scope runner pod now answers result) :
    ∃ first rest marked, answers = first ++ rest ∧
      MarksIfAny startMarker (Rfc3339.render now) pod first marked ∧
      ∀ a ∈ rest, ∀ patch, a.call.patch? = some patch →
        ∃ version, patch = Pod.markerPatch version completeMarker (Rfc3339.render now) := by
  have hservice {middle : List Answered} {held : Option Pod} {advice : Option Retry}
      (hdecide : Decides policy scope runner held now middle advice) :
      ∀ a ∈ middle, ∀ patch, a.call.patch? = some patch →
        ∃ version, patch = Pod.markerPatch version completeMarker (Rfc3339.render now) := by
    intro a ha patch hpatch
    rw [Call.patch?_eq_none_of_isToRunnerService (hdecide.isToRunnerService a ha)] at hpatch
    cases hpatch
  cases h with
  | unstarted hstart => exact ⟨_, [], _, (List.append_nil _).symm, hstart, by simp⟩
  | advised hstart hdecide => exact ⟨_, _, _, rfl, hstart, hservice hdecide⟩
  | completed hstart hdecide hcomplete =>
      refine ⟨_, _, _, List.append_assoc _ _ _, hstart, ?_⟩
      rw [List.forall_mem_append]
      refine ⟨hservice hdecide, fun a ha patch hpatch => ?_⟩
      obtain ⟨-, version, hmarker⟩ := hcomplete.exists_markerPatch a ha
      rw [hmarker] at hpatch
      cases hpatch
      exact ⟨version, rfl⟩

/-- An error of the runner service is passed on with the advice. -/
theorem onServiceError_failure (policy : Policy) (error : GitHub.Error) :
    (onServiceError policy error).2.failure = some (.github error) := by
  cases error <;> rfl

/-- The only answer that may report a failure is the last one, and it decides the result. -/
inductive Settles (policy : Policy) : List Answered → Except Failure TickOutcome → Prop
  | unfailing {answers : List Answered} (hquiet : Unfailing answers) (outcome : TickOutcome) :
      Settles policy answers (.ok outcome)
  | unwritten (before : List Answered) {last : Answered} {failure : Failure}
      (hquiet : Unfailing before) (hfailure : last.failure? = some failure)
      (hcall : last.call.isPatch) : Settles policy (before ++ [last]) (.error failure)
  | refused (before : List Answered) {last : Answered} {error : GitHub.Error}
      (hquiet : Unfailing before) (hfailure : last.failure? = some (.github error))
      (hcall : last.call.isToRunnerService) :
      Settles policy (before ++ [last]) (.ok (.retry (onServiceError policy error).2))

/-- Whatever was answered before without a failure changes nothing. -/
theorem Settles.append {before : List Answered} {result : Except Failure TickOutcome}
    (hquiet : Unfailing before) (h : Settles policy answers result) :
    Settles policy (before ++ answers) result := by
  cases h with
  | unfailing hrest outcome => exact .unfailing (hquiet.append hrest) outcome
  | unwritten middle hrest hfailure hcall =>
      rw [← List.append_assoc]
      exact .unwritten (before ++ middle) (hquiet.append hrest) hfailure hcall
  | refused middle hrest hfailure hcall =>
      rw [← List.append_assoc]
      exact .refused (before ++ middle) (hquiet.append hrest) hfailure hcall

theorem MarksIfAny.unfailing {key text : String} {held : Option Pod}
    (h : MarksIfAny key text pod answers (.ok held)) : Unfailing answers := by
  generalize hresult : (Except.ok held : Except Failure (Option Pod)) = result at h
  cases h with
  | nobody => simp [Unfailing]
  | @somebody _ _ marked hmarks =>
      cases hmarks with
      | present _ => simp [Unfailing]
      | asked _ _ =>
          cases marked with
          | error failure => cases hresult
          | ok stored => simp [Unfailing, Answered.failure?]

/-- A marker that could not be written is reported as it was. -/
theorem MarksIfAny.settles {key text : String} {failure : Failure}
    (h : MarksIfAny key text pod answers (.error failure)) :
    Settles policy answers (.error failure) := by
  generalize hresult : (Except.error failure : Except Failure (Option Pod)) = result at h
  cases h with
  | nobody => cases hresult
  | @somebody _ _ marked hmarks =>
      cases hmarks with
      | present _ => cases hresult
      | asked _ _ =>
          cases marked with
          | error found =>
              cases hresult
              exact .unwritten [] (by simp [Unfailing]) rfl rfl
          | ok stored => cases hresult

/-- A decision to let the pod go has met no failure. -/
theorem Decides.unfailing (h : Decides policy scope runner pod now answers none) :
    Unfailing answers := by
  generalize hadvice : (none : Option Retry) = advice at h
  cases h with
  | decided _ => simp [Unfailing]
  | asked _ hask =>
      cases hask with
      | unlisted error => cases hadvice
      | absent _ => simp [Unfailing, Answered.failure?]
      | removed _ => simp [Unfailing, Answered.failure?]
      | refused _ error => cases hadvice

theorem Decides.settles {advice : Retry}
    (h : Decides policy scope runner pod now answers (some advice)) :
    Settles policy answers (.ok (.retry advice)) := by
  generalize hadvice : some advice = decided at h
  cases h with
  | decided _ => cases hadvice
  | asked _ hask =>
      cases hask with
      | unlisted error =>
          cases hadvice
          exact .refused [] (by simp [Unfailing]) rfl rfl
      | absent _ => exact .unfailing (by simp [Unfailing, Answered.failure?]) _
      | removed _ => cases hadvice
      | @refused runners entry _ error =>
          cases hadvice
          exact .refused [⟨.listRunners scope, .ok runners⟩]
            (by simp [Unfailing, Answered.failure?]) rfl rfl

/-- A call that fails is the last one of its tick and decides the result. -/
theorem Ticks.settles {result : Except Failure TickOutcome}
    (h : Ticks policy scope runner pod now answers result) : Settles policy answers result := by
  cases h with
  | unstarted hstart => exact hstart.settles
  | advised hstart hdecide => exact hdecide.settles.append hstart.unfailing
  | @completed first middle last held completed hstart hdecide hcomplete =>
      have hbefore := hstart.unfailing.append hdecide.unfailing
      cases completed with
      | error failure => exact hcomplete.settles.append hbefore
      | ok released => exact .unfailing (hbefore.append hcomplete.unfailing) _

/-- Where only the last entry can fail, an entry that fails is the last one. -/
theorem eq_last_of_fails {α : Type} {failure? : α → Option Failure} {earlier : List α} {last x : α}
    (hquiet : ∀ y ∈ earlier, failure? y = none) (hx : x ∈ earlier ++ [last]) {failure : Failure}
    (hfailure : failure? x = some failure) : x = last := by
  rcases List.mem_append.1 hx with hearlier | hlast
  · rw [hquiet x hearlier] at hfailure
    cases hfailure
  · exact List.mem_singleton.1 hlast

/-- An answer that reports a failure is the last one, and what was asked decides the result. -/
theorem Settles.of_failure? {result : Except Failure TickOutcome}
    (h : Settles policy answers result) {a : Answered} (ha : a ∈ answers) {failure : Failure}
    (hfailure : a.failure? = some failure) :
    (∃ earlier, answers = earlier ++ [a]) ∧
      (a.call.isPatch ∧ result = .error failure ∨
        a.call.isToRunnerService ∧ ∃ error, failure = .github error ∧
          result = .ok (.retry (onServiceError policy error).2)) := by
  cases h with
  | unfailing hquiet _ =>
      rw [hquiet a ha] at hfailure
      cases hfailure
  | unwritten before hquiet hfound hcall =>
      obtain rfl := eq_last_of_fails hquiet ha hfailure
      obtain rfl := Option.some.inj (hfound.symm.trans hfailure)
      exact ⟨⟨before, rfl⟩, .inl ⟨hcall, rfl⟩⟩
  | refused before hquiet hfound hcall =>
      obtain rfl := eq_last_of_fails hquiet ha hfailure
      obtain rfl := Option.some.inj (hfound.symm.trans hfailure)
      exact ⟨⟨before, rfl⟩, .inr ⟨hcall, _, rfl, rfl⟩⟩

/-- The only exchange that may have failed is the last one, and it decides the result. -/
inductive Stops (policy : Policy) (now : Int) :
    List Exchanged → Except Failure TickOutcome → Prop
  | quiet {trace : List Exchanged} (hquiet : Quiet now trace)
      (result : Except Failure TickOutcome) : Stops policy now trace result
  | unwritten (earlier : List Exchanged) {last : Exchanged} {failure : Failure}
      (hquiet : Quiet now earlier) (hfailure : last.failure? now = some failure)
      (hcall : last.call.isPatch) : Stops policy now (earlier ++ [last]) (.error failure)
  | refused (earlier : List Exchanged) {last : Exchanged} {error : GitHub.Error}
      (hquiet : Quiet now earlier) (hfailure : last.failure? now = some (.github error))
      (hcall : last.call.isToRunnerService) :
      Stops policy now (earlier ++ [last]) (.ok (.retry (onServiceError policy error).2))

variable {conn : Connection} {trace : List Exchanged} {result : Except Failure TickOutcome}

theorem Settles.stops (h : Settles policy answers result) (hcarries : Carries conn answers trace) :
    Stops policy conn.now trace result := by
  cases h with
  | unfailing hquiet outcome => exact .quiet (hcarries.quiet hquiet) _
  | unwritten before hquiet hfailure hcall =>
      rcases hcarries.quiet_or hquiet with hall | ⟨earlier, x, rfl, hearlier, hx, hsame⟩
      · exact .quiet hall _
      · exact .unwritten earlier hearlier (hsame.trans hfailure) (hx ▸ hcall)
  | refused before hquiet hfailure hcall =>
      rcases hcarries.quiet_or hquiet with hall | ⟨earlier, x, rfl, hearlier, hx, hsame⟩
      · exact .quiet hall _
      · exact .refused earlier hearlier (hsame.trans hfailure) (hx ▸ hcall)

/-- Nothing is sent after an exchange that has failed. -/
theorem Stops.pairwise {clock : Int} (h : Stops policy clock trace result) :
    trace.Pairwise fun x _ => x.failure? clock = none := by
  have hlast (earlier : List Exchanged) (last : Exchanged) (hquiet : Quiet clock earlier) :
      (earlier ++ [last]).Pairwise fun x _ => x.failure? clock = none := by
    rw [List.pairwise_append]
    refine ⟨List.pairwise_of_forall_mem_list fun x hx _ _ => hquiet x hx, by simp, ?_⟩
    intro x hx _ _
    exact hquiet x hx
  cases h with
  | quiet hquiet _ => exact List.pairwise_of_forall_mem_list fun x hx _ _ => hquiet x hx
  | unwritten earlier hquiet _ _ => exact hlast earlier _ hquiet
  | refused earlier hquiet _ _ => exact hlast earlier _ hquiet

/-- An exchange that has failed is the last one; what it was for tells what its tick comes to. -/
theorem Stops.of_failure? {clock : Int} (h : Stops policy clock trace result) {x : Exchanged}
    (hx : x ∈ trace) {failure : Failure} (hfailure : x.failure? clock = some failure) :
    (∃ earlier, trace = earlier ++ [x]) ∧
      (x.call.isPatch ∧ result = .error failure ∨
        x.call.isToRunnerService ∧ ∃ error, failure = .github error ∧
          result = .ok (.retry (onServiceError policy error).2)) := by
  cases h with
  | quiet hquiet _ =>
      rw [hquiet x hx] at hfailure
      cases hfailure
  | unwritten earlier hquiet hfound hcall =>
      obtain rfl := eq_last_of_fails hquiet hx hfailure
      obtain rfl := Option.some.inj (hfound.symm.trans hfailure)
      exact ⟨⟨earlier, rfl⟩, .inl ⟨hcall, rfl⟩⟩
  | refused earlier hquiet hfound hcall =>
      obtain rfl := eq_last_of_fails hquiet hx hfailure
      obtain rfl := Option.some.inj (hfound.symm.trans hfailure)
      exact ⟨⟨earlier, rfl⟩, .inr ⟨hcall, _, rfl, rfl⟩⟩

end RunnerRelease
