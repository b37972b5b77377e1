import RunnerRelease.Proofs.Release.Parts
import RunnerRelease.Proofs.Session.Sequence

/-!
# What a reply to a patch means

The meaning of a reply by its status and its body: the pod that is stored, a conflict, a refusal,
or no account of what has happened. A patch that has not been granted ends its tick, and the tick
reports what the patch has met.

## Implementation notes

The relation is not shaped like the reader: each constructor states all of its conditions. Only
the code tells a conflict from other refusals, and where the body gives an account of the refusal
the code is taken from there, whatever the status says.
-/

namespace RunnerRelease

open Http Procedure

namespace Kubernetes

/-- A body reads as the server's own account of a refusal. -/
def AccountsFor (body : String) (refusal : Refusal) : Prop :=
  ∃ document, Json.parse body = some document ∧ refusal? document = some refusal

/-- The refusal that a status and a body stand for. -/
inductive Refuses (status : Nat) (body : String) : Refusal → Prop
  | account {refusal : Refusal} (haccount : AccountsFor body refusal) : Refuses status body refusal
  | status (hother : ∀ refusal, ¬ AccountsFor body refusal) :
      Refuses status body {
        status := statusText status
        message := Text.quoted body
        reason := "Failed to parse error data"
        code := status }

/-- The status says that a request was refused or could not be served. -/
def Refused (r : Response) : Prop := 400 ≤ r.status ∧ r.status ≤ 599

/-- What a reply means for the patch of a pod with the given name. -/
inductive PatchMeans (name : String) : Reply → Except RunnerRelease.Failure Pod → Prop
  | stored {r : Response} {body : String} {pod : Pod} (hgranted : ¬ Refused r)
      (hbody : r.text? = some body) (hpod : bodyPod? body = some pod) :
      PatchMeans name (some r) (.ok pod)
  | conflict {r : Response} {body : String} {refusal : Refusal} (hrefused : Refused r)
      (hbody : r.text? = some body) (hrefusal : Refuses r.status body refusal)
      (hcode : refusal.code = 409) : PatchMeans name (some r) (.error (.conflict name))
  | refused {r : Response} {body : String} {refusal : Refusal} (hrefused : Refused r)
      (hbody : r.text? = some body) (hrefusal : Refuses r.status body refusal)
      (hcode : refusal.code ≠ 409) :
      PatchMeans name (some r) (.error (.kubernetes (.refused refusal)))
  | undecoded {r : Response} {body : String} (hgranted : ¬ Refused r)
      (hbody : r.text? = some body) (hpod : bodyPod? body = none) :
      PatchMeans name (some r) (.error (.kubernetes .invalidReply))
  | unread {r : Response} (hbody : r.text? = none) :
      PatchMeans name (some r) (.error (.kubernetes .invalidReply))
  | lost : PatchMeans name none (.error (.kubernetes .noReply))

variable {name body : String} {status : Nat} {r : Response} {refusal : Refusal}

theorem isFailure_iff : r.isFailure = true ↔ Refused r := by
  simp [Response.isFailure, Refused, Nat.lt_succ_iff]

theorem accountsFor_iff : AccountsFor body refusal ↔
    (Json.parse body).bind refusal? = some refusal :=
  Option.bind_eq_some_iff.symm

/-- There is one refusal that a status and a body stand for. -/
theorem refusalOf_eq_iff : refusalOf status body = refusal ↔ Refuses status body refusal := by
  constructor
  · rintro rfl
    rw [refusalOf]
    split
    · rename_i found haccount
      exact .account (accountsFor_iff.2 haccount)
    · rename_i hnone
      refine .status fun refusal haccount => ?_
      rw [accountsFor_iff, hnone] at haccount
      cases haccount
  · intro h
    cases h with
    | account haccount => rw [refusalOf, accountsFor_iff.1 haccount]
    | status hother =>
        have hnone : (Json.parse body).bind refusal? = none := by
          rw [Option.eq_none_iff_forall_ne_some]
          intro refusal haccount
          exact hother refusal (accountsFor_iff.2 haccount)
        rw [refusalOf, hnone]

theorem readPatched_of_unread (name : String) (hbody : r.text? = none) :
    readPatched name r = .error (.kubernetes .invalidReply) := by
  simp only [readPatched, readPod, grantedBody, hbody, patchFailure]

theorem readPatched_of_refused (name : String) (hrefused : Refused r)
    (hbody : r.text? = some body) :
    readPatched name r = .error (patchFailure name (.refused (refusalOf r.status body))) := by
  rw [← isFailure_iff] at hrefused
  simp only [readPatched, readPod, grantedBody, hbody, if_pos hrefused]

theorem readPatched_of_granted (name : String) (hgranted : ¬ Refused r)
    (hbody : r.text? = some body) :
    readPatched name r = (bodyPod? body).elim (.error (.kubernetes .invalidReply)) .ok := by
  rw [← isFailure_iff] at hgranted
  simp only [readPatched, readPod, grantedBody, hbody, if_neg hgranted]
  cases bodyPod? body with
  | none => rfl
  | some pod => rfl

/-- What a response is read as is what it means for a patch. -/
theorem patchMeans_readPatched (name : String) (r : Response) :
    PatchMeans name (some r) (readPatched name r) := by
  cases hbody : r.text? with
  | none =>
      rw [readPatched_of_unread name hbody]
      exact .unread hbody
  | some body =>
      by_cases hrefused : Refused r
      · have hrefusal : Refuses r.status body (refusalOf r.status body) := refusalOf_eq_iff.1 rfl
        rw [readPatched_of_refused name hrefused hbody, patchFailure]
        split
        · rename_i hcode
          exact .conflict hrefused hbody hrefusal hcode
        · rename_i hcode
          exact .refused hrefused hbody hrefusal hcode
      · rw [readPatched_of_granted name hrefused hbody]
        cases hpod : bodyPod? body with
        | some pod => exact .stored hrefused hbody hpod
        | none => exact .undecoded hrefused hbody hpod

/-- What a response means for a patch is what it is read as. -/
theorem readPatched_of_patchMeans {answer : Except RunnerRelease.Failure Pod}
    (h : PatchMeans name (some r) answer) : readPatched name r = answer := by
  cases h with
  | stored hgranted hbody hpod =>
      rw [readPatched_of_granted name hgranted hbody, hpod]
      rfl
  | conflict hrefused hbody hrefusal hcode =>
      rw [readPatched_of_refused name hrefused hbody, refusalOf_eq_iff.2 hrefusal, patchFailure,
        if_pos hcode]
  | refused hrefused hbody hrefusal hcode =>
      rw [readPatched_of_refused name hrefused hbody, refusalOf_eq_iff.2 hrefusal, patchFailure,
        if_neg hcode]
  | undecoded hgranted hbody hpod =>
      rw [readPatched_of_granted name hgranted hbody, hpod]
      rfl
  | unread hbody => exact readPatched_of_unread name hbody

/-- A reply is read as what it means for a patch, and means nothing else. -/
theorem patched_eq_iff {pod : Pod} {reply : Reply} {answer : Except RunnerRelease.Failure Pod} :
    patched pod reply = answer ↔ PatchMeans pod.nameAny reply answer := by
  constructor
  · rintro rfl
    cases reply with
    | none => exact .lost
    | some r => exact patchMeans_readPatched pod.nameAny r
  · intro h
    cases reply with
    | none =>
        cases h
        rfl
    | some r => exact readPatched_of_patchMeans h

end Kubernetes

open Kubernetes

section

variable {conn : Connection} {original updated : Pod}

/-- A patch whose request can be put together comes to what the first reply means for it. -/
theorem run_ask_patchPod {target : String}
    (htarget : podTarget? (conn.kubernetes.namespaceOf original) original.nameAny = some target)
    (replies : List Reply) :
    (Session.run conn (ask (.patchPod original updated)) replies).result =
      patched original replies.head?.join := by
  obtain ⟨request, hrequest⟩ : ∃ request, patchRequest (conn.kubernetes.namespaceOf original)
      original.nameAny (original.patchTo updated) = some request := by
    rw [patchRequest, htarget]
    exact ⟨_, rfl⟩
  obtain ⟨entries, hstart⟩ : ∃ entries, Exchange.start conn (.patchPod original updated) =
      (entries, .sending request ()) := by
    simp only [Exchange.start, hrequest]
    exact ⟨_, rfl⟩
  rw [ask, Session.run_call_of_single hstart fun _ => rfl, reading_patchPod, Session.run_done]
  rfl

/-- A patch whose request cannot be put together fails without it. -/
theorem run_ask_patchPod_of_none
    (htarget : podTarget? (conn.kubernetes.namespaceOf original) original.nameAny = none)
    (replies : List Reply) :
    (Session.run conn (ask (.patchPod original updated)) replies).result =
      .error (.kubernetes .invalidRequest) := by
  obtain ⟨entries, hstart⟩ : ∃ entries, Exchange.start conn (.patchPod original updated) =
      (entries, .answered (.error (.kubernetes .invalidRequest))) := by
    simp only [Exchange.start, patchRequest, htarget]
    exact ⟨_, rfl⟩
  rw [ask, Session.run_call_of_answered hstart, Session.run_done]
  rfl

end

variable {policy : Policy} {scope : Scope} {runner : String} {given : Option Pod} {now : Instant}

/-- A patch that fails is the last call of its tick, and the tick fails with it. -/
theorem eq_error_of_patchPod {answers : List Answered} {result : Except Failure TickOutcome}
    {original updated : Pod} {failure : Failure}
    (h : (tick policy scope runner given now).Yields answers result)
    (hfailed : ⟨.patchPod original updated, .error failure⟩ ∈ answers) :
    result = .error failure ∧
      ∃ earlier, answers = earlier ++ [⟨.patchPod original updated, .error failure⟩] := by
  have hsettles := (ticks_of_yields h).settles
  obtain ⟨hlast, ⟨-, hresult⟩ | ⟨hservice, -⟩⟩ := hsettles.of_failure? hfailed rfl
  · exact ⟨hresult, hlast⟩
  · cases hservice

/-- Nothing is sent after a patch whose reply means a failure, and the tick fails with it. -/
theorem run_tick_eq_error {conn : Connection} {replies : List Reply} {original updated : Pod}
    {request : Request} {reply : Reply} {failure : Failure}
    (hsent : ⟨.patchPod original updated, request, reply⟩ ∈
      Session.trace conn (tick policy scope runner given now) replies)
    (hmeans : PatchMeans original.nameAny reply (.error failure)) :
    (Session.run conn (tick policy scope runner given now) replies).result = .error failure ∧
      ∃ earlier, Session.trace conn (tick policy scope runner given now) replies =
        earlier ++ [⟨.patchPod original updated, request, reply⟩] := by
  obtain ⟨answers, hyields, hcarries⟩ :=
    Session.accounts_run conn (tick policy scope runner given now) replies
  have hstops := (ticks_of_yields hyields).settles.stops hcarries
  have hfailure : (⟨.patchPod original updated, request, reply⟩ : Exchanged).failure? conn.now =
      some failure := by
    rw [Exchanged.failure?, reading_patchPod, patched_eq_iff.2 hmeans]
    rfl
  obtain ⟨hlast, ⟨-, hresult⟩ | ⟨hservice, -⟩⟩ := hstops.of_failure? hsent hfailure
  · exact ⟨hresult, hlast⟩
  · cases hservice

/--
A patch comes to exactly what the first reply means for it, if its request can be put together: a
pod where the status is no refusal and the body reads as that pod, a conflict where a body that
can be read goes with a refusal whose code is 409, any other refusal as it is, and otherwise a
failure of the exchange. A tick that makes a patch comes to the failure that the reply means for
it and sends nothing after it; it makes no call at all after a patch that has failed.
-/
theorem refused_patch_is_reported (conn : Connection) :
    (∀ original updated replies answer,
      (podTarget? (conn.kubernetes.namespaceOf original) original.nameAny).isSome →
        ((Session.run conn (ask (.patchPod original updated)) replies).result = answer ↔
          PatchMeans original.nameAny replies.head?.join answer)) ∧
    (∀ original updated replies,
      podTarget? (conn.kubernetes.namespaceOf original) original.nameAny = none →
        (Session.run conn (ask (.patchPod original updated)) replies).result =
          .error (.kubernetes .invalidRequest)) ∧
    ∀ policy scope runner given now,
      (∀ replies original updated request reply failure,
        ⟨.patchPod original updated, request, reply⟩ ∈
            Session.trace conn (tick policy scope runner given now) replies →
          PatchMeans original.nameAny reply (.error failure) →
            (Session.run conn (tick policy scope runner given now) replies).result =
                .error failure ∧
              ∃ earlier, Session.trace conn (tick policy scope runner given now) replies =
                earlier ++ [⟨.patchPod original updated, request, reply⟩]) ∧
      ∀ answers result original updated failure,
        (tick policy scope runner given now).Yields answers result →
          ⟨.patchPod original updated, .error failure⟩ ∈ answers →
            result = .error failure ∧
              ∃ earlier, answers = earlier ++ [⟨.patchPod original updated, .error failure⟩] := by
  refine ⟨?_, ?_, ?_⟩
  · intro original updated replies answer htarget
    obtain ⟨target, htarget⟩ := Option.isSome_iff_exists.1 htarget
    rw [run_ask_patchPod htarget, patched_eq_iff]
  · intro original updated replies htarget
    exact run_ask_patchPod_of_none htarget replies
  · intro policy scope runner given now
    constructor
    · intro replies original updated request reply failure hsent hmeans
      exact run_tick_eq_error hsent hmeans
    · intro answers result original updated failure hyields hfailed
      exact eq_error_of_patchPod hyields hfailed

namespace Contradicted

/-!
Two replies to the patch of a pod whose body gives an account of a refusal: the status says that
the server has failed and the account that there is a conflict, and the other way round.
-/

def connection : Connection where
  github := { baseUrl := "http://h", token := "t", userAgent := "a" }
  kubernetes := { defaultNamespace := "default" }
  now := 0

def pod : Pod := { metadata := { name := some "w1" } }

/-- An account of a refusal with the given code. -/
def account (code : String) : Text.Bytes :=
  Text.toBytes ("\x7b\"status\":\"Failure\",\"code\":" ++ code ++ "\x7d")

def conflict : Reply := some { status := 500, body := account "409" }

def failed : Reply := some { status := 409, body := account "500" }

def first : Procedure (Except Failure TickOutcome) :=
  tick {} (.organization "o") "w1" (some pod) (.ofSeconds 0)

end Contradicted

/--
Where the status and the account contradict each other, the account counts. A first tick that
meets the conflict comes to it, and sends nothing after the patch.
-/
theorem refused_patch_is_reported_by_account :
    PatchMeans "w1" Contradicted.failed (.error (.kubernetes (.refused {
        status := "Failure"
        message := ""
        reason := ""
        code := 500 }))) ∧
      (Session.run Contradicted.connection Contradicted.first [Contradicted.conflict]).result =
        .error (.conflict "w1") ∧
      ∃ earlier updated request,
        Session.trace Contradicted.connection Contradicted.first [Contradicted.conflict] =
          earlier ++ [⟨.patchPod Contradicted.pod updated, request, Contradicted.conflict⟩] := by
  have htarget : (podTarget? (Contradicted.connection.kubernetes.namespaceOf Contradicted.pod)
      Contradicted.pod.nameAny).isSome := by
    decide +kernel
  obtain ⟨hpatch, -, htick⟩ := refused_patch_is_reported Contradicted.connection
  have hread (reply : Reply) : PatchMeans "w1" reply
      (Session.run Contradicted.connection
        (ask (.patchPod Contradicted.pod Contradicted.pod)) [reply]).result :=
    (hpatch Contradicted.pod Contradicted.pod [reply] _ htarget).1 rfl
  have hfailed : (Session.run Contradicted.connection
      (ask (.patchPod Contradicted.pod Contradicted.pod)) [Contradicted.failed]).result =
        .error (.kubernetes (.refused ⟨"Failure", "", "", 500⟩)) := by
    decide +kernel
  have hconflict : (Session.run Contradicted.connection
      (ask (.patchPod Contradicted.pod Contradicted.pod)) [Contradicted.conflict]).result =
        .error (.conflict "w1") := by
    decide +kernel
  obtain ⟨updated, request, hsent⟩ : ∃ updated request,
      ⟨.patchPod Contradicted.pod updated, request, Contradicted.conflict⟩ ∈
        Session.trace Contradicted.connection Contradicted.first [Contradicted.conflict] :=
    ⟨_, _, List.mem_cons_self⟩
  obtain ⟨hresult, earlier, htrace⟩ := (htick _ _ _ _ _).1 _ _ _ _ _ _ hsent (hconflict ▸ hread _)
  exact ⟨hfailed ▸ hread _, hresult, earlier, updated, request, htrace⟩

end RunnerRelease
