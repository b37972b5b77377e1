import RunnerRelease.Proofs.Policy.Delays
import RunnerRelease.Proofs.Release.Course

/-!
# Refusals for too many requests

A tick that is refused a request for too many requests asks for nothing more, leaves the
completion marker unwritten and is to be repeated after the delay for such refusals, which is
longer than the usual one. A tick that may be repeated at once has met no such refusal.

## Implementation notes

`RateLimited` reads the status and the header fields of a response only. The time that such a
response names is passed on with the failure; the delay does not depend on it.
-/

namespace RunnerRelease

open Http Procedure

/-- A response that refuses its request for too many requests. -/
def RateLimited (r : Response) : Prop :=
  r.status = 429 ∨
    r.status = 403 ∧
      (((r.header? "retry-after").bind Text.readUInt64?).isSome ∨
        r.header? "x-ratelimit-remaining" = some "0")

instance (r : Response) : Decidable (RateLimited r) :=
  inferInstanceAs (Decidable (_ ∨ _))

/-- The client waits for the end of a rate limit exactly where a response refuses for one. -/
theorem isSome_rateLimitReset_iff (now : Int) (r : Response) :
    (GitHub.rateLimitReset now r).isSome ↔ RateLimited r := by
  rw [GitHub.rateLimitReset, RateLimited]
  by_cases hstatus : r.status = 403 ∨ r.status = 429
  · rw [if_pos hstatus]
    cases hafter : (r.header? "retry-after").bind Text.readUInt64? with
    | some seconds =>
        rcases hstatus with hstatus | hstatus <;> simp [hstatus]
    | none =>
        by_cases hremaining : r.header? "x-ratelimit-remaining" = some "0"
        · rcases hstatus with hstatus | hstatus
          all_goals
            simp only [hremaining, if_true]
            cases (r.header? "x-ratelimit-reset").bind Text.readInt64? <;> simp [hstatus]
        · rcases hstatus with hstatus | hstatus <;> simp [hstatus, hremaining]
  · rw [if_neg hstatus]
    rw [not_or] at hstatus
    simp [hstatus]

variable {conn : Connection} {policy : Policy} {scope : Scope} {runner : String}
  {given : Option Pod} {now : Instant} {answers : List Answered} {x : Exchanged}
  {response : Response}

/-- A call to the runner service fails by a refusal for too many requests. -/
theorem Exchanged.failure?_of_rateLimited {clock : Int} (hcall : x.call.isToRunnerService)
    (hreply : x.reply = some response) (hlimited : RateLimited response) :
    ∃ resetIn, GitHub.rateLimitReset clock response = some resetIn ∧
      x.failure? clock = some (.github (.rateLimited resetIn)) := by
  obtain ⟨resetIn, hreset⟩ :=
    Option.isSome_iff_exists.1 ((isSome_rateLimitReset_iff clock response).2 hlimited)
  refine ⟨resetIn, hreset, ?_⟩
  obtain ⟨call, request, reply⟩ := x
  subst hreply
  cases call with
  | listRunners scope =>
      simp [failure?, reading, Call.reading, GitHub.readPage, hreset, Except.map,
        Answered.failure?]
  | removeRunner scope id =>
      simp [failure?, reading, Call.reading, GitHub.readRemoval, hreset, Answered.failure?]
  | _ => cases hcall

/-- A patch fails by such a refusal as well. -/
theorem Exchanged.failure?_of_rateLimited_patch {clock : Int} (hcall : x.call.isPatch)
    (hreply : x.reply = some response) (hlimited : RateLimited response) :
    ∃ failure, x.failure? clock = some failure := by
  have hrefused : ∃ failure, Kubernetes.readPod response = .error failure := by
    have hfailure : response.isFailure = true := by
      rcases hlimited with hstatus | ⟨hstatus, -⟩ <;> simp [Response.isFailure, hstatus]
    rw [Kubernetes.readPod, Kubernetes.grantedBody]
    cases response.text? with
    | none => exact ⟨_, rfl⟩
    | some body =>
        simp only [if_pos hfailure]
        exact ⟨_, rfl⟩
  obtain ⟨failure, hread⟩ := hrefused
  obtain ⟨call, request, reply⟩ := x
  subst hreply
  cases call with
  | patchPod base updated =>
      refine ⟨Kubernetes.patchFailure base.nameAny failure, ?_⟩
      simp [failure?, reading, Call.reading, Kubernetes.readPatched, hread, Answered.failure?]
  | _ => cases hcall

/-- A tick that is to be repeated has asked for no patches but those that write the start marker. -/
theorem Ticks.call_of_retry {advice : Retry}
    (h : Ticks policy scope runner given now answers (.ok (.retry advice))) : ∀ a ∈ answers,
      a.call.isToRunnerService ∨ a.call.isPatch ∧ ∃ version,
        a.call.patch? = some (Pod.markerPatch version startMarker (Rfc3339.render now)) := by
  generalize hresult : (Except.ok (.retry advice) : Except Failure TickOutcome) = result at h
  cases h with
  | unstarted _ => cases hresult
  | advised hstart hdecide =>
      intro a ha
      rcases List.mem_append.1 ha with hfirst | hmiddle
      · exact .inr (hstart.exists_markerPatch a hfirst)
      · exact .inl (hdecide.isToRunnerService a hmiddle)
  | @completed _ _ _ _ completed _ _ _ => cases completed <;> cases hresult

/-- A request for a patch that writes a marker. -/
def Http.Request.Marks (request : Request) (key : String) : Prop :=
  ∃ patch, request.patch? = some patch ∧ (patch.at? (Pod.annotationPath key)).isSome

/-- A tick that is to be repeated has not asked for the completion marker. -/
theorem Ticks.not_marks_of_retry {advice : Retry} {trace : List Exchanged}
    (h : Ticks policy scope runner given now answers (.ok (.retry advice)))
    (hcarries : Carries conn answers trace) : ∀ y ∈ trace, ¬ y.request.Marks completeMarker := by
  rintro y hy ⟨patch, hpatch, hsome⟩
  obtain ⟨a, ha, hcall⟩ := hcarries.exists_call hy
  rw [hcarries.patch?_eq y hy, ← hcall] at hpatch
  rcases h.call_of_retry a ha with hservice | ⟨-, version, hmarker⟩
  · rw [Call.patch?_eq_none_of_isToRunnerService hservice] at hpatch
    cases hpatch
  · rw [hmarker] at hpatch
    cases hpatch
    rw [Pod.at?_annotation_markerPatch, if_neg (by decide)] at hsome
    cases hsome

/--
A response of the runner service that refuses for too many requests is the last one of its
tick. The completion marker is not written, and the tick is to be repeated after the delay for
such refusals, which is longer than the usual one. A tick that may be repeated at once has got
no such response.
-/
theorem tick_of_rateLimited (conn : Connection) (policy : Policy) (scope : Scope)
    (runner : String) (given : Option Pod) (now : Instant) (replies : List Reply) :
    let p := tick policy scope runner given now
    let trace := Session.trace conn p replies
    let result := (Session.run conn p replies).result
    (∀ x ∈ trace, ∀ response, x.call.isToRunnerService → x.reply = some response →
      RateLimited response →
        (∃ earlier, trace = earlier ++ [x]) ∧
        (∀ y ∈ trace, ¬ y.request.Marks completeMarker) ∧
        ∃ resetIn, GitHub.rateLimitReset conn.now response = some resetIn ∧
          result = .ok (.retry {
            after := policy.rateLimitSpan, failure := some (.github (.rateLimited resetIn)) })) ∧
      policy.retrySpan < policy.rateLimitSpan ∧
      (∀ advice, result = .ok (.retry advice) → advice.after = .zero →
        ∀ x ∈ trace, ∀ response, x.reply = some response → ¬ RateLimited response) := by
  intro p trace result
  obtain ⟨answers, hyields, hcarries⟩ := Session.accounts_run conn p replies
  have hticks : Ticks policy scope runner given now answers result := ticks_of_yields hyields
  have hstops : Stops policy conn.now trace result := hticks.settles.stops hcarries
  have hlimited : ∀ x ∈ trace, ∀ response, x.call.isToRunnerService → x.reply = some response →
      RateLimited response → (∃ earlier, trace = earlier ++ [x]) ∧
        ∃ resetIn, GitHub.rateLimitReset conn.now response = some resetIn ∧
          result = .ok (.retry {
            after := policy.rateLimitSpan, failure := some (.github (.rateLimited resetIn)) }) := by
    intro x hx response hcall hreply hrefused
    obtain ⟨resetIn, hreset, hfailure⟩ := Exchanged.failure?_of_rateLimited hcall hreply hrefused
    obtain ⟨hlast, ⟨hpatch, -⟩ | ⟨-, error, herror, hresult⟩⟩ := hstops.of_failure? hx hfailure
    · exact absurd hcall (Call.not_isToRunnerService_of_isPatch hpatch)
    · cases herror
      exact ⟨hlast, resetIn, hreset, hresult⟩
  refine ⟨?_, policy.retrySpan_lt_rateLimitSpan, ?_⟩
  · intro x hx response hcall hreply hrefused
    obtain ⟨hlast, resetIn, hreset, hresult⟩ := hlimited x hx response hcall hreply hrefused
    rw [hresult] at hticks
    exact ⟨hlast, hticks.not_marks_of_retry hcarries, resetIn, hreset, hresult⟩
  · intro advice hresult hzero x hx response hreply hrefused
    obtain ⟨a, ha, hcall⟩ := hcarries.exists_call hx
    have hretried := hticks
    rw [hresult] at hretried
    rcases hretried.call_of_retry a ha with hservice | ⟨hpatch, -⟩
    · obtain ⟨-, resetIn, -, hlater⟩ := hlimited x hx response (hcall ▸ hservice) hreply hrefused
      rw [hresult] at hlater
      cases hlater
      exact policy.rateLimitSpan_ne_zero hzero
    · rw [hcall] at hpatch
      obtain ⟨failure, hfailure⟩ : ∃ failure, x.failure? conn.now = some failure :=
        Exchanged.failure?_of_rateLimited_patch hpatch hreply hrefused
      rcases (hstops.of_failure? hx hfailure).2 with ⟨-, hfailed⟩ | ⟨hservice, -⟩
      · rw [hresult] at hfailed
        cases hfailed
      · exact Call.not_isToRunnerService_of_isPatch hpatch hservice

/-- A tick whose first page is refused is to be repeated after five minutes. -/
theorem retry_of_refused_page :
    let conn : Connection := {
      github := { baseUrl := "http://h", token := "t", userAgent := "a" }
      kubernetes := { defaultNamespace := "default" }
      now := 0 }
    let p := tick {} (.organization "o") "runner" none (.ofSeconds 0)
    ∃ resetIn, (Session.run conn p [some { status := 429 }]).result = .ok (.retry {
      after := .ofSeconds 300, failure := some (.github (.rateLimited resetIn)) }) := by
  intro conn p
  obtain ⟨x, hx, hrefused⟩ : ∃ x ∈ Session.trace conn p [some { status := 429 }],
      x.call.isToRunnerService ∧ x.reply = some { status := 429 } := by
    decide +kernel
  obtain ⟨hlimited, -⟩ := tick_of_rateLimited conn {} (.organization "o") "runner" none
    (.ofSeconds 0) [some { status := 429 }]
  obtain ⟨-, -, resetIn, -, hresult⟩ := hlimited x hx _ hrefused.1 hrefused.2 (.inl rfl)
  exact ⟨resetIn, hresult⟩

end RunnerRelease
