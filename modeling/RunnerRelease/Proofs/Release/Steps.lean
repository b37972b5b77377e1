import RunnerRelease.Proofs.Procedure
import RunnerRelease.Release.Tick

/-!
# The steps of a tick

What each part of a tick asks and what it makes of the answers: the unregistration, the
decision, the writing of a marker. Each part is described by a relation between the
answers it was given, all of them in order, and its result.
-/

namespace RunnerRelease

open Procedure

variable {asks : List Answered → Call → Prop}

/-- The entry of a listing that is to be removed, if any. -/
def registered (name : String) : Except GitHub.Error (List Runner) → Option Runner
  | .error _ => none
  | .ok runners => runners.find? (Runner.registers name)

/-- The answers that an unregistration is given, and what it comes to. -/
inductive Unregisters (scope : Scope) (name : String) :
    List Answered → Except GitHub.Error Unregistration → Prop
  | unlisted (error : GitHub.Error) :
      Unregisters scope name [⟨.listRunners scope, .error error⟩] (.error error)
  | absent {runners : List Runner} (h : runners.find? (Runner.registers name) = none) :
      Unregisters scope name [⟨.listRunners scope, .ok runners⟩] (.ok .notFound)
  | removed {runners : List Runner} {runner : Runner}
      (h : runners.find? (Runner.registers name) = some runner) :
      Unregisters scope name
        [⟨.listRunners scope, .ok runners⟩, ⟨.removeRunner scope runner.id, .ok ()⟩]
        (.ok (.removed runner.id))
  | refused {runners : List Runner} {runner : Runner}
      (h : runners.find? (Runner.registers name) = some runner) (error : GitHub.Error) :
      Unregisters scope name
        [⟨.listRunners scope, .ok runners⟩, ⟨.removeRunner scope runner.id, .error error⟩]
        (.error error)

/-- An unregistration lists the runners, and removes the first that is registered by the name. -/
theorem ensures_unregister {scope : Scope} {name : String} {past : List Answered}
    (hlist : asks past (.listRunners scope))
    (hremove : ∀ runners runner, runners.find? (Runner.registers name) = some runner →
      asks (past ++ [⟨.listRunners scope, .ok runners⟩]) (.removeRunner scope runner.id)) :
    Ensures asks
      (fun now outcome => ∃ new, now = past ++ new ∧ Unregisters scope name new outcome)
      past (unregister scope name) := by
  rw [unregister]
  refine ⟨hlist, fun listing => ?_⟩
  cases listing with
  | error error => exact ⟨_, rfl, .unlisted error⟩
  | ok runners =>
      simp only [done_bind]
      cases hfind : runners.find? (Runner.registers name) with
      | none => exact ⟨_, rfl, .absent hfind⟩
      | some runner =>
          refine ⟨hremove runners runner hfind, fun removal => ?_⟩
          cases removal with
          | error error => exact ⟨_, by rw [List.append_assoc]; rfl, .refused hfind error⟩
          | ok _ => exact ⟨_, by rw [List.append_assoc]; rfl, .removed hfind⟩

/-- An unregistration can be given all these answers. -/
theorem Unregisters.yields {scope : Scope} {name : String} {answers : List Answered}
    {outcome : Except GitHub.Error Unregistration} (h : Unregisters scope name answers outcome) :
    (unregister scope name).Yields answers outcome := by
  cases h with
  | unlisted error => exact .call (.done _)
  | absent hfind =>
      refine .call ?_
      simp only [done_bind, hfind]
      exact .log (.done _)
  | removed hfind =>
      refine .call ?_
      simp only [done_bind, hfind]
      exact .call (.log (.done _))
  | refused hfind error =>
      refine .call ?_
      simp only [done_bind, hfind]
      exact .call (.log (.done _))

/-- Whatever the calls of an unregistration are answered with, it takes one of its courses. -/
theorem unregisters_of_yields {scope : Scope} {name : String} {answers : List Answered}
    {outcome : Except GitHub.Error Unregistration}
    (h : (unregister scope name).Yields answers outcome) :
    Unregisters scope name answers outcome := by
  have hensures : Ensures (fun _ _ => True)
      (fun later outcome => ∃ new, later = [] ++ new ∧ Unregisters scope name new outcome)
      [] (unregister scope name) :=
    ensures_unregister trivial fun _ _ _ => trivial
  obtain ⟨new, hnew, hunregisters⟩ := hensures.of_yields h
  obtain rfl : answers = new := hnew
  exact hunregisters

/-- The advice that follows from an unregistration; none means that the pod may go. -/
def verdict (policy : Policy) (pod : Option Pod) (now : Instant) :
    Except GitHub.Error Unregistration → Option Retry
  | .error error => some (onServiceError policy error).2
  | .ok (.removed _) => none
  | .ok .notFound => pod.bind fun pod => (judge policy pod now).retry policy

/-- The answers that a decision is given, and the advice it comes to. -/
inductive Decides (policy : Policy) (scope : Scope) (runner : String) (pod : Option Pod)
    (now : Instant) : List Answered → Option Retry → Prop
  | decided (h : (pod.bind fun pod => pod.annotated completeMarker).isSome) :
      Decides policy scope runner pod now [] none
  | asked (h : (pod.bind fun pod => pod.annotated completeMarker) = none)
      {answers : List Answered} {outcome : Except GitHub.Error Unregistration}
      (hask : Unregisters scope runner answers outcome) :
      Decides policy scope runner pod now answers (verdict policy pod now outcome)

/-- A decision asks nothing about a pod with the completion marker, else it unregisters. -/
theorem ensures_decideRelease {policy : Policy} {scope : Scope} {runner : String}
    {pod : Option Pod} {now : Instant} {past : List Answered}
    (hlist : asks past (.listRunners scope))
    (hremove : ∀ runners entry, runners.find? (Runner.registers runner) = some entry →
      asks (past ++ [⟨.listRunners scope, .ok runners⟩]) (.removeRunner scope entry.id)) :
    Ensures asks
      (fun later advice => ∃ new, later = past ++ new ∧
        Decides policy scope runner pod now new advice)
      past (decideRelease policy scope runner pod now) := by
  unfold decideRelease
  split
  · rename_i hcomplete
    exact ⟨[], by simp, .decided hcomplete⟩
  · rename_i hcomplete
    refine (ensures_unregister hlist hremove).bind fun later outcome hout => ?_
    obtain ⟨new, rfl, hask⟩ := hout
    have hdecides : Decides policy scope runner pod now new (verdict policy pod now outcome) :=
      .asked (by simpa using hcomplete) hask
    cases outcome with
    | error error => exact ⟨new, rfl, hdecides⟩
    | ok unregistration =>
        cases unregistration with
        | removed id => exact ⟨new, rfl, hdecides⟩
        | notFound =>
            cases pod with
            | none => exact ⟨new, rfl, hdecides⟩
            | some pod => exact ⟨new, rfl, hdecides⟩

/-- A decision can be given all these answers. -/
theorem Decides.yields {policy : Policy} {scope : Scope} {runner : String} {pod : Option Pod}
    {now : Instant} {answers : List Answered} {advice : Option Retry}
    (h : Decides policy scope runner pod now answers advice) :
    (decideRelease policy scope runner pod now).Yields answers advice := by
  unfold decideRelease
  cases h with
  | decided hcomplete =>
      rw [if_pos hcomplete]
      exact .log (.done none)
  | @asked hcomplete _ outcome hask =>
      rw [if_neg (by simp [hcomplete]), ← List.append_nil answers]
      refine hask.yields.bind ?_
      cases outcome with
      | error error => exact .log (.done _)
      | ok unregistration =>
          cases unregistration with
          | removed id => exact .log (.done none)
          | notFound =>
              cases pod with
              | none => exact .log (.done none)
              | some pod => exact .log (.done _)

/-- The answers that the writing of a marker is given, and the pod that is held then. -/
inductive Marks (pod : Pod) (key text : String) :
    List Answered → Except Failure Pod → Prop
  | present (h : (pod.annotated key).isSome) : Marks pod key text [] (.ok pod)
  | asked (h : pod.annotated key = none) (answer : Except Failure Pod) :
      Marks pod key text [⟨.patchPod pod (pod.annotate key text), answer⟩] answer

/-- A marker that is not there is submitted once; its answer is the result. -/
theorem ensures_mark {pod : Pod} {key text stage : String} {past : List Answered}
    (h : pod.annotated key = none → asks past (.patchPod pod (pod.annotate key text))) :
    Ensures asks
      (fun now result => ∃ new, now = past ++ new ∧ Marks pod key text new result)
      past (mark pod key text stage) := by
  rw [mark, setIfAbsent]
  cases hkey : pod.annotated key with
  | some value => exact ⟨[], by simp, .present (by rw [hkey]; rfl)⟩
  | none =>
      refine ⟨h hkey, fun answer => ?_⟩
      cases answer with
      | error failure => exact ⟨_, rfl, .asked hkey (.error failure)⟩
      | ok stored => exact ⟨_, rfl, .asked hkey (.ok stored)⟩

/-- The writing of a marker can be given all these answers. -/
theorem Marks.yields {pod : Pod} {key text : String} {answers : List Answered}
    {marked : Except Failure Pod} (h : Marks pod key text answers marked) (stage : String) :
    (mark pod key text stage).Yields answers marked := by
  rw [mark, setIfAbsent]
  cases h with
  | present hsome =>
      obtain ⟨value, hvalue⟩ := Option.isSome_iff_exists.1 hsome
      rw [hvalue]
      exact .log (.done _)
  | asked hmissing _ =>
      rw [hmissing]
      refine .call ?_
      cases marked with
      | error failure => exact .log (.done _)
      | ok stored => exact .log (.done _)

end RunnerRelease
