import RunnerRelease.Proofs.GitHub.Request
import RunnerRelease.Proofs.Release.Parts

/-!
# Removals

Of all registrations only the runner's own is ever removed: the first one of its name in a
listing that has come to its end. An unregistration reports what has become of it.

## Implementation notes

`RemovesOwn` speaks of calls, whatever registry answers them, and `DeletesOwn` of requests, where
the listing is the pages that have been received before. Entries with the number zero are no
registrations, so that the first entry of a name need not be the one that is removed.
-/

namespace RunnerRelease

open Http Procedure

section

variable {conn : Connection} {policy : Policy} {scope : Scope} {runner : String} {now : Instant}
  {pod : Option Pod} {runners : List Runner} {entry : Runner} {before answers after : List Answered}
  {earlier trace later : List Exchanged} {outcome : Except GitHub.Error Unregistration}

/-- Whether a call asks for the removal of a registration. -/
def Call.isRemoval : Call → Bool
  | .removeRunner _ _ => true
  | _ => false

theorem Call.isToRunnerService_of_isRemoval {c : Call} (h : c.isRemoval) : c.isToRunnerService := by
  cases c <;> simp [isRemoval, isToRunnerService] at h ⊢

/--
At most one removal is asked for, right after a listing without error, and it is that of the
first entry of the listing that registers the runner.
-/
structure RemovesOwn (scope : Scope) (runner : String) (answers : List Answered) : Prop where
  once : answers.countP (fun a => a.call.isRemoval) ≤ 1
  own : ∀ a ∈ answers, a.call.isRemoval → ∃ before after runners entry,
    answers = before ++ ⟨.listRunners scope, .ok runners⟩ :: a :: after ∧
      FirstRegistered runner runners entry ∧ a.call = .removeRunner scope entry.id
  unlisted : ∀ error, ⟨.listRunners scope, .error error⟩ ∈ answers →
    ∀ a ∈ answers, ¬ a.call.isRemoval
  absent : ∀ runners, ⟨.listRunners scope, .ok runners⟩ ∈ answers →
    (∀ entry ∈ runners, ¬ (entry.name = runner ∧ entry.id ≠ 0)) → ∀ a ∈ answers, ¬ a.call.isRemoval

/-- What an unregistration comes to is what its calls have been answered with. -/
structure Reports (scope : Scope) (runner : String) (answers : List Answered)
    (outcome : Except GitHub.Error Unregistration) : Prop where
  removed : ∀ id, outcome = .ok (.removed id) ↔ ⟨.removeRunner scope id, .ok ()⟩ ∈ answers
  notFound : outcome = .ok .notFound ↔ ∃ runners, ⟨.listRunners scope, .ok runners⟩ ∈ answers ∧
    ∀ entry ∈ runners, ¬ (entry.name = runner ∧ entry.id ≠ 0)
  failed : ∀ error, outcome = .error error ↔ ⟨.listRunners scope, .error error⟩ ∈ answers ∨
    ∃ id, ⟨.removeRunner scope id, .error error⟩ ∈ answers

/-- Calls to the cluster before and after change nothing about removals. -/
theorem RemovesOwn.append (h : RemovesOwn scope runner answers)
    (hbefore : ∀ a ∈ before, ¬ a.call.isToRunnerService)
    (hafter : ∀ a ∈ after, ¬ a.call.isToRunnerService) :
    RemovesOwn scope runner (before ++ answers ++ after) := by
  have hmem (a : Answered) (ha : a ∈ before ++ answers ++ after)
      (hcall : a.call.isToRunnerService) : a ∈ answers := by
    rw [List.mem_append, List.mem_append] at ha
    rcases ha with (hfirst | hmiddle) | hlast
    · exact absurd hcall (hbefore a hfirst)
    · exact hmiddle
    · exact absurd hcall (hafter a hlast)
  have hnone {calls : List Answered} (hcalls : ∀ a ∈ calls, ¬ a.call.isToRunnerService) :
      calls.countP (fun a => a.call.isRemoval) = 0 := by
    rw [List.countP_eq_zero]
    exact fun a ha hremoval => hcalls a ha (Call.isToRunnerService_of_isRemoval hremoval)
  refine ⟨?_, ?_, ?_, ?_⟩
  · rw [List.countP_append, List.countP_append, hnone hbefore, hnone hafter]
    simpa using h.once
  · intro a ha hremoval
    obtain ⟨first, rest, runners, entry, rfl, hown⟩ :=
      h.own a (hmem a ha (Call.isToRunnerService_of_isRemoval hremoval)) hremoval
    exact ⟨before ++ first, rest ++ after, runners, entry, by simp, hown⟩
  · intro error hlisting a ha hremoval
    exact h.unlisted error (hmem _ hlisting rfl) a
      (hmem a ha (Call.isToRunnerService_of_isRemoval hremoval)) hremoval
  · intro runners hlisting habsent a ha hremoval
    exact h.absent runners (hmem _ hlisting rfl) habsent a
      (hmem a ha (Call.isToRunnerService_of_isRemoval hremoval)) hremoval

theorem removesOwn_of_no_removal (scope : Scope) (runner : String)
    (h : ∀ a ∈ answers, ¬ a.call.isRemoval) : RemovesOwn scope runner answers where
  once := by rw [List.countP_eq_zero.2 h]; exact Nat.zero_le 1
  own a ha hremoval := absurd hremoval (h a ha)
  unlisted _ _ := h
  absent _ _ _ := h

theorem Unregisters.removesOwn (h : Unregisters scope runner answers outcome) :
    RemovesOwn scope runner answers := by
  have hremoval {runners : List Runner} {entry : Runner} (removal : Except GitHub.Error Unit)
      (hfind : runners.find? (Runner.registers runner) = some entry) :
      RemovesOwn scope runner
        [⟨.listRunners scope, .ok runners⟩, ⟨.removeRunner scope entry.id, removal⟩] := by
    have hfirst := firstRegistered_of_find? hfind
    refine ⟨by simp [Call.isRemoval], ?_, by simp, ?_⟩
    · rw [List.forall_mem_cons, List.forall_mem_singleton]
      exact ⟨by simp [Call.isRemoval], fun _ => ⟨[], [], runners, entry, rfl, hfirst, rfl⟩⟩
    · intro listed hlisted habsent
      obtain rfl : listed = runners := by simpa using hlisted
      exact absurd habsent hfirst.not_absent
  cases h with
  | unlisted error => exact removesOwn_of_no_removal scope runner (by simp [Call.isRemoval])
  | absent _ => exact removesOwn_of_no_removal scope runner (by simp [Call.isRemoval])
  | removed hfind => exact hremoval (.ok ()) hfind
  | refused hfind error => exact hremoval (.error error) hfind

theorem Unregisters.reports (h : Unregisters scope runner answers outcome) :
    Reports scope runner answers outcome := by
  cases h with
  | unlisted error => exact ⟨by simp, by simp, by simp [eq_comm]⟩
  | absent hfind =>
      have habsent := not_registered_of_find?_eq_none hfind
      exact ⟨by simp, by simpa using habsent, by simp⟩
  | removed hfind =>
      have hfound := (firstRegistered_of_find? hfind).not_absent
      exact ⟨by simp [eq_comm], by simpa using hfound, by simp⟩
  | refused hfind error =>
      have hfound := (firstRegistered_of_find? hfind).not_absent
      exact ⟨by simp, by simpa using hfound, by simp [eq_comm]⟩

/-- No tick removes another registration than that of its runner. -/
theorem Ticks.removesOwn {result : Except Failure TickOutcome}
    (h : Ticks policy scope runner pod now answers result) : RemovesOwn scope runner answers := by
  have hmarks {key text : String} {held : Option Pod} {calls : List Answered}
      {marked : Except Failure (Option Pod)} (hmarks : MarksIfAny key text held calls marked) :
      ∀ a ∈ calls, ¬ a.call.isToRunnerService := fun a ha =>
    Call.not_isToRunnerService_of_isPatch (hmarks.exists_markerPatch a ha).1
  have hnone : RemovesOwn scope runner [] := removesOwn_of_no_removal scope runner (by simp)
  have hasks {held : Option Pod} {calls : List Answered} {advice : Option Retry}
      (hdecide : Decides policy scope runner held now calls advice) :
      RemovesOwn scope runner calls := by
    cases hdecide with
    | decided _ => exact hnone
    | asked _ hask => exact hask.removesOwn
  cases h with
  | unstarted hstart =>
      simpa using hnone.append (hmarks hstart) (List.forall_mem_nil _)
  | advised hstart hdecide =>
      simpa using (hasks hdecide).append (hmarks hstart) (List.forall_mem_nil _)
  | completed hstart hdecide hcomplete =>
      exact (hasks hdecide).append (hmarks hstart) (hmarks hcomplete)

/--
At most one request is for a removal. It is sent right after a listing that has come to its end,
for the first entry on the pages of the listing that registers the runner, and its target ends in
the number of that entry.
-/
structure DeletesOwn (conn : Connection) (scope : Scope) (runner : String)
    (trace : List Exchanged) : Prop where
  once : trace.countP (fun x => x.request.method = "DELETE") ≤ 1
  own : ∀ x ∈ trace, x.request.method = "DELETE" → ∃ before listing after pages entry,
    trace = before ++ listing ++ x :: after ∧
      listing.map (fun y => Except.ok y.request) =
        (List.range' 1 pages.length).map (conn.github.pageRequest scope) ∧
      listing.map (Exchanged.page conn.now) = pages.map Except.ok ∧
      GitHub.Listing.Gathers {} pages (pages.flatMap GitHub.RunnerPage.runners) ∧
      FirstRegistered runner (pages.flatMap GitHub.RunnerPage.runners) entry ∧
      conn.github.removeRequest scope entry.id = .ok x.request ∧
      ('#' ∉ conn.github.baseUrl.toList → '#' ∉ scope.apiPath.toList →
        ∃ front, x.request.target = front ++ "/" ++ toString entry.id)

/-- Other requests before and after change nothing about removals. -/
theorem DeletesOwn.append (h : DeletesOwn conn scope runner trace)
    (hearlier : ∀ x ∈ earlier, x.request.method ≠ "DELETE")
    (hlater : ∀ x ∈ later, x.request.method ≠ "DELETE") :
    DeletesOwn conn scope runner (earlier ++ trace ++ later) := by
  have hnone {xs : List Exchanged} (hxs : ∀ x ∈ xs, x.request.method ≠ "DELETE") :
      xs.countP (fun x => x.request.method = "DELETE") = 0 := by
    simpa [List.countP_eq_zero] using hxs
  constructor
  · rw [List.countP_append, List.countP_append, hnone hearlier, hnone hlater]
    simpa using h.once
  · intro x hx hmethod
    rw [List.mem_append, List.mem_append] at hx
    rcases hx with (hfirst | hmiddle) | hlast
    · exact absurd hmethod (hearlier x hfirst)
    · obtain ⟨before, listing, after, pages, entry, rfl, hown⟩ := h.own x hmiddle hmethod
      exact ⟨earlier ++ before, listing, after ++ later, pages, entry, by simp, hown⟩
    · exact absurd hmethod (hlater x hlast)

theorem deletesOwn_of_no_removal (conn : Connection) (scope : Scope) (runner : String)
    (h : ∀ x ∈ trace, x.request.method ≠ "DELETE") : DeletesOwn conn scope runner trace where
  once := by
    have hnone : trace.countP (fun x => x.request.method = "DELETE") = 0 := by
      simpa [List.countP_eq_zero] using h
    omega
  own x hx hmethod := absurd hmethod (h x hx)

theorem Exchange.Lists.method_eq {listing : GitHub.Listing}
    {answer : Except GitHub.Error (List Runner)} (h : Lists conn scope listing trace answer) :
    ∀ x ∈ trace, x.request.method = "GET" := by
  intro x hx
  obtain ⟨page, hrequest⟩ := h.exists_pageRequest x hx
  exact GitHub.Client.method_of_pageRequest hrequest

/-- The request for a marker is a patch. -/
theorem MarksIfAny.method_eq {key text : String} {marked : Except Failure (Option Pod)}
    (h : MarksIfAny key text pod answers marked) (hcarries : Carries conn answers trace) :
    ∀ x ∈ trace, x.request.method = "PATCH" := by
  intro x hx
  obtain ⟨a, ha, hcall⟩ := hcarries.exists_call hx
  obtain ⟨-, version, hpatch⟩ := h.exists_markerPatch a ha
  rw [hcall, ← hcarries.patch?_eq x hx, Request.patch?] at hpatch
  split at hpatch
  · assumption
  · cases hpatch

/-- Over the wire, an unregistration deletes what it removes. -/
theorem Unregisters.deletesOwn (h : Unregisters scope runner answers outcome)
    (hcarries : Carries conn answers trace) : DeletesOwn conn scope runner trace := by
  obtain ⟨listing, rest, rfl, hrest⟩ := h.exists_listing
  cases hcarries with
  | @cons _ _ _ pages removal hlist hremove =>
      have hlists := hlist.lists_of_start
      have hget : ∀ x ∈ pages, x.request.method ≠ "DELETE" := by
        intro x hx
        rw [hlists.method_eq x hx]
        decide
      rcases hrest with ⟨-, rfl⟩ | ⟨entry, answer, hentry, rfl⟩
      · cases hremove
        exact deletesOwn_of_no_removal conn scope runner (by simpa using hget)
      · rcases hremove.eq_nil_or_removal with ⟨rfl, -⟩ | ⟨request, reply, hrequest, rfl⟩
        · exact deletesOwn_of_no_removal conn scope runner (by simpa using hget)
        · constructor
          · have hnone : pages.countP (fun x => x.request.method = "DELETE") = 0 := by
              simpa [List.countP_eq_zero] using hget
            rw [List.countP_append, hnone, Nat.zero_add]
            exact List.countP_le_length
          · intro x hx hmethod
            have hremoval := (List.mem_append.1 hx).resolve_left fun hmem => hget x hmem hmethod
            obtain rfl := List.mem_singleton.1 hremoval
            cases listing with
            | error error => cases hentry
            | ok runners =>
                obtain ⟨found, hgathers, hfound, hrequests⟩ := hlists.exists_gathers
                obtain rfl : runners = found.flatMap GitHub.RunnerPage.runners :=
                  hgathers.runners_eq
                refine ⟨[], pages, [], found, entry, by simp, hrequests, hfound, hgathers,
                  firstRegistered_of_find? hentry, hrequest, ?_⟩
                intro hbase hscope
                exact GitHub.Client.exists_target_of_removeRequest hrequest hbase hscope

theorem Ticks.deletesOwn {result : Except Failure TickOutcome}
    (h : Ticks policy scope runner pod now answers result)
    (hcarries : Carries conn answers trace) : DeletesOwn conn scope runner trace := by
  have hmarks {key text : String} {held : Option Pod} {calls : List Answered}
      {marked : Except Failure (Option Pod)} {xs : List Exchanged}
      (hmarks : MarksIfAny key text held calls marked) (hxs : Carries conn calls xs) :
      ∀ x ∈ xs, x.request.method ≠ "DELETE" := by
    intro x hx
    rw [hmarks.method_eq hxs x hx]
    decide
  have hasks {held : Option Pod} {calls : List Answered} {advice : Option Retry}
      {xs : List Exchanged} (hdecide : Decides policy scope runner held now calls advice)
      (hxs : Carries conn calls xs) : DeletesOwn conn scope runner xs := by
    cases hdecide with
    | decided _ =>
        cases hxs
        exact deletesOwn_of_no_removal conn scope runner (by simp)
    | asked _ hask => exact hask.deletesOwn hxs
  cases h with
  | unstarted hstart => exact deletesOwn_of_no_removal conn scope runner (hmarks hstart hcarries)
  | advised hstart hdecide =>
      obtain ⟨xs, ys, rfl, hxs, hys⟩ := hcarries.exists_append
      simpa using (hasks hdecide hys).append (hmarks hstart hxs) (List.forall_mem_nil _)
  | completed hstart hdecide hcomplete =>
      obtain ⟨_, zs, rfl, hfirst, hzs⟩ := hcarries.exists_append
      obtain ⟨xs, ys, rfl, hxs, hys⟩ := hfirst.exists_append
      exact (hasks hdecide hys).append (hmarks hstart hxs) (hmarks hcomplete hzs)

end

/--
Whatever a registry answers, an unregistration and a tick remove no registration but the runner's
own, and the unregistration reports what its calls have come to. Over the wire it is the same,
whatever is replied.
-/
theorem own_registration_removed (scope : Scope) (runner : String) :
    (∀ answers outcome, (unregister scope runner).Yields answers outcome →
      RemovesOwn scope runner answers ∧ Reports scope runner answers outcome) ∧
    (∀ policy pod now answers result, (tick policy scope runner pod now).Yields answers result →
      RemovesOwn scope runner answers) ∧
    ∀ (conn : Connection) (replies : List Reply),
      DeletesOwn conn scope runner (Session.trace conn (unregister scope runner) replies) ∧
      ∀ policy pod now,
        DeletesOwn conn scope runner
          (Session.trace conn (tick policy scope runner pod now) replies) := by
  refine ⟨?_, ?_, ?_⟩
  · intro answers outcome hyields
    have hunregisters := unregisters_of_yields hyields
    exact ⟨hunregisters.removesOwn, hunregisters.reports⟩
  · intro policy pod now answers result hyields
    exact (ticks_of_yields hyields).removesOwn
  · intro conn replies
    constructor
    · obtain ⟨answers, hyields, hcarries⟩ :=
        Session.accounts_run conn (unregister scope runner) replies
      exact (unregisters_of_yields hyields).deletesOwn hcarries
    · intro policy pod now
      obtain ⟨answers, hyields, hcarries⟩ :=
        Session.accounts_run conn (tick policy scope runner pod now) replies
      exact (ticks_of_yields hyields).deletesOwn hcarries

namespace Namesake

/-! The runner's registration has a negative number and comes after a placeholder of its name. -/

def connection : Connection where
  github := { baseUrl := "http://h", token := "t", userAgent := "a" }
  kubernetes := { defaultNamespace := "default" }
  now := 0

def scope : Scope := .organization "o"

def replies : List Reply := [
  some {
    status := 200
    body := Text.toBytes ("\x7b\"total_count\":2,\"runners\":[\x7b\"id\":0,\"name\":\"r\"\x7d," ++
      "\x7b\"id\":-7,\"name\":\"r\"\x7d]\x7d") },
  some { status := 204 }]

def listed : List Runner := [⟨0, "r", false, ""⟩, ⟨-7, "r", false, ""⟩]

theorem yields : (unregister scope "r").Yields
    [⟨.listRunners scope, .ok listed⟩, ⟨.removeRunner scope (-7), .ok ()⟩]
    (.ok (.removed (-7))) := by
  have hfind : listed.find? (Runner.registers "r") = some ⟨-7, "r", false, ""⟩ := rfl
  exact (Unregisters.removed hfind).yields

end Namesake

/-- A registration with a negative number is removed, and its request ends in this number. -/
theorem own_registration_removed_after_placeholder :
    RemovesOwn Namesake.scope "r"
        [⟨.listRunners Namesake.scope, .ok Namesake.listed⟩,
          ⟨.removeRunner Namesake.scope (-7), .ok ()⟩] ∧
      ∃ x ∈ Session.trace Namesake.connection (unregister Namesake.scope "r") Namesake.replies,
        ∃ front id, x.request.target = front ++ "/" ++ toString id ∧ id ≠ (0 : Int) := by
  obtain ⟨hunregister, -, hwire⟩ := own_registration_removed Namesake.scope "r"
  refine ⟨(hunregister _ _ Namesake.yields).1, ?_⟩
  have hsent : (Session.trace Namesake.connection (unregister Namesake.scope "r")
      Namesake.replies).any (fun x => x.request.method = "DELETE") = true := by decide +kernel
  obtain ⟨x, hx, hmethod⟩ := List.any_eq_true.1 hsent
  obtain ⟨_, _, _, _, entry, _, _, _, _, hfirst, _, htarget⟩ :=
    (hwire Namesake.connection Namesake.replies).1.own x hx (of_decide_eq_true hmethod)
  obtain ⟨_, _, _, _, hid, _⟩ := hfirst
  obtain ⟨front, hfront⟩ := htarget (by decide) (by decide)
  exact ⟨x, hx, front, entry.id, hfront, hid⟩

end RunnerRelease
