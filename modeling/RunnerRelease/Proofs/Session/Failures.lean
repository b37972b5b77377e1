import RunnerRelease.Proofs.Session.Exchanges

/-!
# Failures in sessions

The failures that answers and exchanges report. Of the exchanges of a call only the last one
can have failed, and it has if and only if the call is answered with a failure.

## Implementation notes

What an exchange says is read from its reply alone: an answer, or of a listing the page that
the reply holds. So whether an exchange has failed can be told without the rest of the run.
-/

namespace RunnerRelease

open Http

/-- The failure that an answer reports. -/
def Answered.failure? : Answered → Option Failure
  | ⟨.listRunners _, .error error⟩ => some (.github error)
  | ⟨.removeRunner _ _, .error error⟩ => some (.github error)
  | ⟨.patchPod _ _, .error failure⟩ => some failure
  | ⟨.getPod _ _, .error failure⟩ => some (.kubernetes failure)
  | ⟨.deletePod _ _, .error failure⟩ => some (.kubernetes failure)
  | _ => none

/-- None of the answers reports a failure. -/
def Unfailing (answers : List Answered) : Prop := ∀ a ∈ answers, a.failure? = none

theorem Unfailing.append {a b : List Answered} (ha : Unfailing a) (hb : Unfailing b) :
    Unfailing (a ++ b) :=
  List.forall_mem_append.2 ⟨ha, hb⟩

/-- What a response by itself says to a call. -/
def Call.reading (now : Int) (response : Response) : (c : Call) → c.Answer
  | .listRunners _ => (GitHub.readPage now response).map GitHub.RunnerPage.runners
  | .removeRunner _ _ => GitHub.readRemoval now response
  | .patchPod base _ => Kubernetes.readPatched base.nameAny response
  | .getPod _ _ => Kubernetes.readPodIfAny response
  | .deletePod _ _ => Kubernetes.readDeleted response

namespace Exchanged

/-- What an exchange by itself says to its call. -/
def reading (now : Int) (x : Exchanged) : x.call.Answer :=
  x.reply.elim x.call.unanswered fun response => x.call.reading now response

/-- The failure that an exchange has met. -/
def failure? (now : Int) (x : Exchanged) : Option Failure :=
  Answered.failure? ⟨x.call, x.reading now⟩

end Exchanged

/-- None of the exchanges has failed. -/
def Quiet (now : Int) (trace : List Exchanged) : Prop := ∀ x ∈ trace, x.failure? now = none

theorem Quiet.append {now : Int} {a b : List Exchanged} (ha : Quiet now a) (hb : Quiet now b) :
    Quiet now (a ++ b) :=
  List.forall_mem_append.2 ⟨ha, hb⟩

variable {conn : Connection}

/-- A response that reports a failure ends its call with that failure. -/
theorem Call.reading_unfailing_or (conn : Connection) (response : Response) (c : Call)
    (progress : c.Progress) :
    Answered.failure? ⟨c, c.reading conn.now response⟩ = none ∨
      (Exchange.receive conn response c progress).2 = .answered (c.reading conn.now response) := by
  cases c with
  | listRunners scope =>
      cases hread : GitHub.readPage conn.now response with
      | error error =>
          right
          simp [Exchange.receive, reading, hread, Except.map]
      | ok page =>
          left
          simp [reading, hread, Except.map, Answered.failure?]
  | removeRunner scope id =>
      right
      simp only [Exchange.receive, reading]
      cases GitHub.readRemoval conn.now response <;> rfl
  | _ => exact .inr rfl

namespace Exchange

variable {c : Call} {exchange : Exchange c} {trace : List Exchanged} {answer : c.Answer}

/-- The exchanges of a call have been made for it. -/
theorem Completes.call_eq (h : exchange.Completes conn trace answer) : ∀ x ∈ trace, x.call = c := by
  induction h with
  | answered answer => simp
  | lost request progress => simp
  | received _ ih =>
      rw [List.forall_mem_cons]
      exact ⟨rfl, ih⟩

/-- Only the last exchange of a call may have failed, and then the call has failed so. -/
theorem Completes.quiet_or (h : exchange.Completes conn trace answer) :
    Quiet conn.now trace ∨ ∃ before last, trace = before ++ [last] ∧ Quiet conn.now before ∧
      last.failure? conn.now = Answered.failure? ⟨c, answer⟩ := by
  induction h with
  | answered answer => exact .inl (by simp [Quiet])
  | lost request progress => exact .inr ⟨[], _, rfl, by simp [Quiet], rfl⟩
  | @received request progress response rest answer hrest ih =>
      rcases c.reading_unfailing_or conn response progress with hquiet | hanswered
      · have hfirst : Quiet conn.now [⟨c, request, some response⟩] :=
          List.forall_mem_singleton.2 hquiet
        rcases ih with hrest | ⟨before, last, rfl, hbefore, hlast⟩
        · exact .inl (hfirst.append hrest)
        · exact .inr ⟨_ :: before, last, rfl, hfirst.append hbefore, hlast⟩
      · rw [hanswered] at hrest
        cases hrest
        exact .inr ⟨[], _, rfl, by simp [Quiet], rfl⟩

end Exchange

variable {answers before : List Answered} {last : Answered} {trace : List Exchanged}

/-- Calls that have not failed are answered by exchanges that have not. -/
theorem Carries.quiet (h : Carries conn answers trace) (hquiet : Unfailing answers) :
    Quiet conn.now trace := by
  induction h with
  | nil => simp [Quiet]
  | cons hcall _ ih =>
      obtain ⟨hanswer, hanswers⟩ := List.forall_mem_cons.1 hquiet
      refine Quiet.append ?_ (ih hanswers)
      rcases hcall.quiet_or with hfirst | ⟨before, last, rfl, hbefore, hlast⟩
      · exact hfirst
      · exact hbefore.append (List.forall_mem_singleton.2 (hlast.trans hanswer))

/-- If only the last call has failed, only the last exchange may have, and then as its call has. -/
theorem Carries.quiet_or (h : Carries conn (before ++ [last]) trace) (hquiet : Unfailing before) :
    Quiet conn.now trace ∨ ∃ earlier x, trace = earlier ++ [x] ∧ Quiet conn.now earlier ∧
      x.call = last.call ∧ x.failure? conn.now = last.failure? := by
  obtain ⟨xs, ys, rfl, hxs, hys⟩ := h.exists_append
  have hearlier := hxs.quiet hquiet
  cases hys with
  | @cons c answer _ first rest hcall hrest =>
      cases hrest
      rw [List.append_nil]
      rcases hcall.quiet_or with hfirst | ⟨before, x, rfl, hbefore, hx⟩
      · exact .inl (hearlier.append hfirst)
      · refine .inr ⟨xs ++ before, x, by simp, hearlier.append hbefore, ?_, hx⟩
        exact hcall.call_eq x (by simp)

/-- An exchange is one of those by which its call is carried out. -/
theorem Carries.exists_completes (h : Carries conn answers trace) {x : Exchanged} (hx : x ∈ trace)
    {c : Call} (hc : x.call = c) :
    ∃ answer xs, x ∈ xs ∧ (Exchange.start conn c).2.Completes conn xs answer := by
  induction h with
  | nil => cases hx
  | cons hcall _ ih =>
      rcases List.mem_append.1 hx with hfirst | hrest
      · obtain rfl := (hcall.call_eq x hfirst).symm.trans hc
        exact ⟨_, _, hfirst, hcall⟩
      · exact ih hrest

/-- The exchanges of calls have been made for them. -/
theorem Carries.exists_call (h : Carries conn answers trace) {x : Exchanged} (hx : x ∈ trace) :
    ∃ a ∈ answers, a.call = x.call := by
  induction h with
  | nil => cases hx
  | @cons c answer _ _ _ hcall _ ih =>
      rcases List.mem_append.1 hx with hfirst | hrest
      · exact ⟨_, List.mem_cons_self, (hcall.call_eq x hfirst).symm⟩
      · obtain ⟨a, ha, hcall⟩ := ih hrest
        exact ⟨a, List.mem_cons_of_mem _ ha, hcall⟩

end RunnerRelease
