import RunnerRelease.Proofs.Release.RateLimit

/-!
# What a response of the runner service means

The meaning of a response, for either call, by its status, its header fields and its body alone.
Refusals for too many requests come first and are the same for both calls; a busy runner is told
apart for a removal only.

## Implementation notes

The relations are not shaped like the readers: each constructor states all of its conditions, so
that the order of the cases plays no part. That a reader gives an answer exactly where the
relation does then takes two facts: the answer that is given is one of the relation, and the
relation has no other.
-/

namespace RunnerRelease

open Http Text

/-- The names of header fields are compared by their characters in lower case. -/
theorem Http.Response.header?_eq (r : Response) (name : String) :
    r.header? name =
      (r.headers.find? fun h => h.1.toList.map Char.toLower == name.toList.map Char.toLower).bind
        fun h =>
          if (trimValue h.2).all isReadable then
            some (.ofList ((trimValue h.2).map fun b => Char.ofNat b.toNat))
          else none := by
  have hname (field : String) : (fieldName field == fieldName name) =
      (field.toList.map Char.toLower == name.toList.map Char.toLower) := by
    rw [Bool.eq_iff_iff, beq_iff_eq, beq_iff_eq, ← String.toList_inj, fieldName, fieldName,
      String.toList_map, String.toList_map]
  rw [header?]
  simp only [hname]
  cases r.headers.find? fun h =>
      h.1.toList.map Char.toLower == name.toList.map Char.toLower with
  | none => rfl
  | some h => rfl

namespace GitHub

/-- The time after which a response that refuses for too many requests lets them be repeated. -/
inductive ResetsIn (now : Int) (r : Response) : TimeSpan → Prop
  /-- The response says how many seconds to wait. -/
  | retryAfter {seconds : UInt64}
      (hafter : (r.header? "retry-after").bind readUInt64? = some seconds) :
      ResetsIn now r (.ofSeconds seconds)
  /-- The response says when no more requests are refused, a time that may be over. -/
  | reset {reset : Int} {seconds : UInt64}
      (hafter : (r.header? "retry-after").bind readUInt64? = none)
      (hremaining : r.header? "x-ratelimit-remaining" = some "0")
      (hreset : (r.header? "x-ratelimit-reset").bind readInt64? = some reset)
      (hseconds : (seconds.toNat : Int) = max 0 (reset - now)) :
      ResetsIn now r (.ofSeconds seconds)
  /-- The response says neither. -/
  | unsaid (hafter : (r.header? "retry-after").bind readUInt64? = none)
      (hunsaid : r.header? "x-ratelimit-remaining" = some "0" →
        (r.header? "x-ratelimit-reset").bind readInt64? = none) :
      ResetsIn now r (.ofSeconds 60)

/-- A body reads as an error of the runner service with this message. -/
def StatesError (body message : String) : Prop :=
  ∃ document field, Json.parse body = some document ∧
    document.record? ["message"] = some [some field] ∧ field.string? = some message

/-- The message that goes with the error that a response stands for. -/
inductive Tells (r : Response) : String → Prop
  | message {body message : String} (hbody : r.lenientText? = some body)
      (hstates : StatesError body message) : Tells r message
  | text {body : String} (hbody : r.lenientText? = some body)
      (hother : ∀ message, ¬ StatesError body message) : Tells r body
  | unread (hbody : r.lenientText? = none) : Tells r ""

/-- What a response means for the removal of a registration. -/
inductive RemovalMeans (now : Int) (r : Response) : Except Error Unit → Prop
  | rateLimited {resetIn : TimeSpan} (hlimited : RateLimited r)
      (hreset : ResetsIn now r resetIn) : RemovalMeans now r (.error (.rateLimited resetIn))
  | removed (hfree : ¬ RateLimited r) (hstatus : 200 ≤ r.status ∧ r.status ≤ 299) :
      RemovalMeans now r (.ok ())
  | busy {message : String} (hfree : ¬ RateLimited r) (hstatus : r.status = 422)
      (htells : Tells r message) : RemovalMeans now r (.error (.runnerBusy message))
  | refused {message : String} (hfree : ¬ RateLimited r)
      (hungranted : ¬ (200 ≤ r.status ∧ r.status ≤ 299)) (hstatus : r.status ≠ 422)
      (htells : Tells r message) : RemovalMeans now r (.error (.api r.status message))

/-- What a response means for the request of a page. -/
inductive PageMeans (now : Int) (r : Response) : Except Error RunnerPage → Prop
  | rateLimited {resetIn : TimeSpan} (hlimited : RateLimited r)
      (hreset : ResetsIn now r resetIn) : PageMeans now r (.error (.rateLimited resetIn))
  | page {page : RunnerPage} (hfree : ¬ RateLimited r)
      (hstatus : 200 ≤ r.status ∧ r.status ≤ 299) (hbody : bodyPage? r = some page) :
      PageMeans now r (.ok page)
  | undecoded (hfree : ¬ RateLimited r) (hstatus : 200 ≤ r.status ∧ r.status ≤ 299)
      (hbody : bodyPage? r = none) : PageMeans now r (.error (.http .decode))
  | refused {message : String} (hfree : ¬ RateLimited r)
      (hungranted : ¬ (200 ≤ r.status ∧ r.status ≤ 299)) (htells : Tells r message) :
      PageMeans now r (.error (.api r.status message))

variable {now : Int} {r : Response} {resetIn : TimeSpan}

theorem isSuccess_iff : r.isSuccess = true ↔ 200 ≤ r.status ∧ r.status ≤ 299 := by
  simp [Response.isSuccess, Nat.lt_succ_iff]

/-- The time until an instant is that between them in seconds, none when it is over. -/
theorem timeUntil_eq {reset : Int} (hclock : 0 ≤ now) (hreset : reset ≤ int64High) :
    ∃ seconds : UInt64, timeUntil now reset = .ofSeconds seconds ∧
      (seconds.toNat : Int) = max 0 (reset - now) := by
  refine ⟨UInt64.ofNat (reset - now).toNat, rfl, ?_⟩
  have hsmall : (reset - now).toNat < 2 ^ 64 := by
    rw [int64High] at hreset
    omega
  rw [UInt64.toNat_ofNat_of_lt' hsmall, Int.toNat_eq_max, Int.max_comm]

theorem le_int64High_of_readInt64? {text : String} {value : Int}
    (h : readInt64? text = some value) : value ≤ int64High := by
  have hrange := (Option.filter_eq_some_iff.1 h).2
  simp only [Bool.and_eq_true, decide_eq_true_eq] at hrange
  exact hrange.2

/-- The time after which requests may be repeated is told by the header fields. -/
theorem resetsIn_of_rateLimitReset (hclock : 0 ≤ now) (h : rateLimitReset now r = some resetIn) :
    ResetsIn now r resetIn := by
  rw [rateLimitReset] at h
  split at h
  · cases hafter : (r.header? "retry-after").bind readUInt64? with
    | some seconds =>
        rw [hafter] at h
        cases h
        exact .retryAfter hafter
    | none =>
        rw [hafter] at h
        dsimp only at h
        by_cases hremaining : r.header? "x-ratelimit-remaining" = some "0"
        · rw [if_pos hremaining] at h
          cases hreset : (r.header? "x-ratelimit-reset").bind readInt64? with
          | some reset =>
              rw [hreset] at h
              cases h
              obtain ⟨text, -, htext⟩ := Option.bind_eq_some_iff.1 hreset
              obtain ⟨seconds, heq, hseconds⟩ :=
                timeUntil_eq hclock (le_int64High_of_readInt64? htext)
              rw [heq]
              exact .reset hafter hremaining hreset hseconds
          | none =>
              rw [hreset] at h
              cases h
              exact .unsaid hafter fun _ => hreset
        · rw [if_neg hremaining] at h
          split at h
          · cases h
            exact .unsaid hafter fun hzero => absurd hzero hremaining
          · cases h
  · cases h

/-- A refusal for too many requests is read with the time that it tells. -/
theorem rateLimitReset_of_resetsIn (hclock : 0 ≤ now) (hlimited : RateLimited r)
    (h : ResetsIn now r resetIn) : rateLimitReset now r = some resetIn := by
  have hstatus : r.status = 403 ∨ r.status = 429 := by
    rcases hlimited with hmany | ⟨hforbidden, -⟩
    · exact .inr hmany
    · exact .inl hforbidden
  rw [rateLimitReset, if_pos hstatus]
  cases h with
  | retryAfter hafter => rw [hafter]
  | @reset reset seconds hafter hremaining hreset hseconds =>
      obtain ⟨text, -, htext⟩ := Option.bind_eq_some_iff.1 hreset
      obtain ⟨found, heq, hfound⟩ :=
        timeUntil_eq hclock (le_int64High_of_readInt64? htext)
      obtain rfl : found = seconds :=
        UInt64.toNat_inj.1 (Int.ofNat_inj.1 (hfound.trans hseconds.symm))
      simp only [hafter, if_pos hremaining, hreset, heq]
  | unsaid hafter hunsaid =>
      by_cases hremaining : r.header? "x-ratelimit-remaining" = some "0"
      · simp only [hafter, if_pos hremaining, hunsaid hremaining]
        rfl
      · have hmany : r.status = 429 := by
          rcases hlimited with hmany | ⟨-, hsome | hzero⟩
          · exact hmany
          · rw [hafter] at hsome
            cases hsome
          · exact absurd hzero hremaining
        simp only [hafter, if_neg hremaining, if_pos hmany]
        rfl

theorem rateLimitReset_eq_some_iff (hclock : 0 ≤ now) :
    rateLimitReset now r = some resetIn ↔ RateLimited r ∧ ResetsIn now r resetIn := by
  constructor
  · intro h
    have hlimited := (isSome_rateLimitReset_iff now r).1 (by rw [h]; rfl)
    exact ⟨hlimited, resetsIn_of_rateLimitReset hclock h⟩
  · intro h
    exact rateLimitReset_of_resetsIn hclock h.1 h.2

theorem rateLimitReset_eq_none_iff : rateLimitReset now r = none ↔ ¬ RateLimited r := by
  rw [← isSome_rateLimitReset_iff now r, Option.not_isSome_iff_eq_none]

/-- The message that is given is the one that the body states, or else the body. -/
theorem exists_stated (r : Response) : ∃ stated : Option String,
    errorMessage r = stated.getD (r.lenientText?.getD "") ∧
      ∀ message, stated = some message ↔ StatesError (r.lenientText?.getD "") message := by
  refine ⟨_, rfl, fun message => ?_⟩
  constructor
  · intro h
    obtain ⟨document, hparse, h⟩ := Option.bind_eq_some_iff.1 h
    obtain ⟨fields, hrecord, h⟩ := Option.bind_eq_some_iff.1 h
    split at h
    · exact ⟨document, _, hparse, hrecord, h⟩
    · cases h
  · rintro ⟨document, field, hparse, hrecord, hfield⟩
    simp only [hparse, hrecord, bind, Option.bind, hfield]

theorem not_statesError_empty (message : String) : ¬ StatesError "" message := by
  rintro ⟨document, -, hparse, -⟩
  have hnone : Json.parse "" = none := by decide +kernel
  rw [hnone] at hparse
  cases hparse

/-- The message that is given is one that the response tells. -/
theorem tells_errorMessage (r : Response) : Tells r (errorMessage r) := by
  obtain ⟨stated, hmessage, hstated⟩ := exists_stated r
  rw [hmessage]
  cases hbody : r.lenientText? with
  | none =>
      rw [hbody, Option.getD_none] at hstated
      cases hfound : stated with
      | none => exact .unread hbody
      | some found => exact absurd ((hstated found).1 hfound) (not_statesError_empty found)
  | some body =>
      rw [hbody, Option.getD_some] at hstated
      cases hfound : stated with
      | some found => exact .message hbody ((hstated found).1 hfound)
      | none =>
          refine .text hbody fun message hstates => ?_
          rw [(hstated message).2 hstates] at hfound
          cases hfound

/-- What a response tells is the message that is given. -/
theorem errorMessage_of_tells {message : String} (h : Tells r message) :
    errorMessage r = message := by
  obtain ⟨stated, hmessage, hstated⟩ := exists_stated r
  rw [hmessage]
  cases h with
  | message hbody hstates =>
      rw [hbody, Option.getD_some] at hstated
      rw [(hstated message).2 hstates, Option.getD_some]
  | text hbody hother =>
      rw [hbody, Option.getD_some] at hstated ⊢
      cases hfound : stated with
      | none => rfl
      | some found => exact absurd ((hstated found).1 hfound) (hother found)
  | unread hbody =>
      rw [hbody, Option.getD_none] at hstated ⊢
      cases hfound : stated with
      | none => rfl
      | some found => exact absurd ((hstated found).1 hfound) (not_statesError_empty found)

/-- A response is read as what it means for a removal. -/
theorem readRemoval_eq_iff (hclock : 0 ≤ now) {answer : Except Error Unit} :
    readRemoval now r = answer ↔ RemovalMeans now r answer := by
  constructor
  · rintro rfl
    rw [readRemoval]
    cases hreset : rateLimitReset now r with
    | some resetIn =>
        obtain ⟨hlimited, htime⟩ := (rateLimitReset_eq_some_iff hclock).1 hreset
        exact .rateLimited hlimited htime
    | none =>
        have hfree := rateLimitReset_eq_none_iff.1 hreset
        dsimp only
        split
        · rename_i hsuccess
          exact .removed hfree (isSuccess_iff.1 hsuccess)
        · rename_i hungranted
          rw [isSuccess_iff] at hungranted
          split
          · rename_i hstatus
            exact .busy hfree hstatus (tells_errorMessage r)
          · rename_i hstatus
            exact .refused hfree hungranted hstatus (tells_errorMessage r)
  · intro h
    cases h with
    | rateLimited hlimited htime =>
        rw [readRemoval, (rateLimitReset_eq_some_iff hclock).2 ⟨hlimited, htime⟩]
    | removed hfree hstatus =>
        rw [readRemoval, rateLimitReset_eq_none_iff.2 hfree]
        exact if_pos (isSuccess_iff.2 hstatus)
    | busy hfree hstatus htells =>
        have hungranted : ¬ r.isSuccess = true := by
          rw [isSuccess_iff]
          omega
        rw [readRemoval, rateLimitReset_eq_none_iff.2 hfree]
        simp only [if_neg hungranted, if_pos hstatus, errorMessage_of_tells htells]
    | refused hfree hungranted hstatus htells =>
        rw [← isSuccess_iff] at hungranted
        rw [readRemoval, rateLimitReset_eq_none_iff.2 hfree]
        simp only [if_neg hungranted, if_neg hstatus, apiError, errorMessage_of_tells htells]

/-- A response is read as what it means for the request of a page. -/
theorem readPage_eq_iff (hclock : 0 ≤ now) {answer : Except Error RunnerPage} :
    readPage now r = answer ↔ PageMeans now r answer := by
  constructor
  · rintro rfl
    rw [readPage]
    cases hreset : rateLimitReset now r with
    | some resetIn =>
        obtain ⟨hlimited, htime⟩ := (rateLimitReset_eq_some_iff hclock).1 hreset
        exact .rateLimited hlimited htime
    | none =>
        have hfree := rateLimitReset_eq_none_iff.1 hreset
        dsimp only
        split
        · rename_i hsuccess
          rw [isSuccess_iff] at hsuccess
          cases hbody : bodyPage? r with
          | some page => exact .page hfree hsuccess hbody
          | none => exact .undecoded hfree hsuccess hbody
        · rename_i hungranted
          rw [isSuccess_iff] at hungranted
          exact .refused hfree hungranted (tells_errorMessage r)
  · intro h
    cases h with
    | rateLimited hlimited htime =>
        rw [readPage, (rateLimitReset_eq_some_iff hclock).2 ⟨hlimited, htime⟩]
    | page hfree hstatus hbody =>
        rw [readPage, rateLimitReset_eq_none_iff.2 hfree]
        simp only [if_pos (isSuccess_iff.2 hstatus), hbody]
    | undecoded hfree hstatus hbody =>
        rw [readPage, rateLimitReset_eq_none_iff.2 hfree]
        simp only [if_pos (isSuccess_iff.2 hstatus), hbody]
    | refused hfree hungranted htells =>
        rw [← isSuccess_iff] at hungranted
        rw [readPage, rateLimitReset_eq_none_iff.2 hfree]
        simp only [if_neg hungranted, apiError, errorMessage_of_tells htells]

end GitHub

/-- A removal is answered with what the response means. -/
theorem Exchange.receive_removeRunner (conn : Connection) (r : Response) (scope : Scope)
    (id : Int) : (Exchange.receive conn r (.removeRunner scope id) ()).2 =
      .answered (GitHub.readRemoval conn.now r) := by
  simp only [Exchange.receive]
  cases GitHub.readRemoval conn.now r with
  | error error => rfl
  | ok _ => rfl

/-- A listing ends with an error of its page, or else takes the page in. -/
theorem Exchange.receive_listRunners (conn : Connection) (r : Response) (scope : Scope)
    (listing : GitHub.Listing) : (Exchange.receive conn r (.listRunners scope) listing).2 =
      match GitHub.readPage conn.now r with
      | .error error => .answered (.error error)
      | .ok page =>
          match listing.receive page with
          | .inl next => listingStep conn scope next
          | .inr runners => .answered (.ok runners) := by
  simp only [Exchange.receive]
  cases GitHub.readPage conn.now r with
  | error error => rfl
  | ok page =>
      dsimp only
      cases listing.receive page with
      | inl next => rfl
      | inr runners => rfl

/--
A response is classified by its status, its header fields and its body, where the clock is not
before 1970. A removal is answered with exactly what the response means for it. A request for a
page gets exactly what the response means for that: an error ends the listing, and a page is
taken in.
-/
theorem response_classified {conn : Connection} (hclock : 0 ≤ conn.now) (r : Response) :
    (∀ scope id answer,
      (Exchange.receive conn r (.removeRunner scope id) ()).2 = .answered answer ↔
        GitHub.RemovalMeans conn.now r answer) ∧
    (∀ answer, GitHub.readPage conn.now r = answer ↔ GitHub.PageMeans conn.now r answer) ∧
    ∀ scope listing,
      (∀ error, GitHub.PageMeans conn.now r (.error error) →
        (Exchange.receive conn r (.listRunners scope) listing).2 = .answered (.error error)) ∧
      ∀ page, GitHub.PageMeans conn.now r (.ok page) →
        (Exchange.receive conn r (.listRunners scope) listing).2 =
          match listing.receive page with
          | .inl next => Exchange.listingStep conn scope next
          | .inr runners => .answered (.ok runners) := by
  refine ⟨?_, fun answer => GitHub.readPage_eq_iff hclock, ?_⟩
  · intro scope id answer
    rw [← GitHub.readRemoval_eq_iff hclock, Exchange.receive_removeRunner]
    constructor
    · intro h
      cases h
      rfl
    · rintro rfl
      rfl
  · intro scope listing
    rw [Exchange.receive_listRunners]
    constructor
    · intro error hmeans
      rw [(GitHub.readPage_eq_iff hclock).2 hmeans]
    · intro page hmeans
      rw [(GitHub.readPage_eq_iff hclock).2 hmeans]

/-- Where the body is no account of an error, it is the message as a whole. -/
example : GitHub.readPage 0 { status := 502, body := toBytes "Bad Gateway" } =
    .error (.api 502 "Bad Gateway") := by
  decide +kernel

namespace Refusals

/-!
Two refusals of a removal: one for too many requests until half a minute from now, and one since
the runner is busy.
-/

def connection : Connection where
  github := { baseUrl := "http://h", token := "t", userAgent := "a" }
  kubernetes := { defaultNamespace := "default" }
  now := 1748779200

def limited : Response where
  status := 403
  headers := [("X-RateLimit-Remaining", toBytes "0"), ("X-RateLimit-Reset", toBytes "1748779230")]

def busy : Response where
  status := 422
  body := toBytes "\x7b\"message\": \"busy\"\x7d"

end Refusals

/-- The first refusal is answered with half a minute, and the second one means that message. -/
theorem response_classified_of_refusals :
    (Exchange.receive Refusals.connection Refusals.limited
        (.removeRunner (.organization "o") 7) ()).2 =
        .answered (.error (.rateLimited (.ofSeconds 30))) ∧
      GitHub.RemovalMeans Refusals.connection.now Refusals.busy (.error (.runnerBusy "busy")) := by
  have hafter : Refusals.limited.header? "retry-after" = none := by
    rw [Response.header?_eq]
    decide +kernel
  have hremaining : Refusals.limited.header? "x-ratelimit-remaining" = some "0" := by
    rw [Response.header?_eq]
    decide +kernel
  have hreset : Refusals.limited.header? "x-ratelimit-reset" = some "1748779230" := by
    rw [Response.header?_eq]
    decide +kernel
  have hclock : 0 ≤ Refusals.connection.now := by decide
  constructor
  · apply ((response_classified hclock _).1 _ _ _).2
    apply GitHub.RemovalMeans.rateLimited
    · exact .inr ⟨rfl, .inr hremaining⟩
    · have hread : (Refusals.limited.header? "x-ratelimit-reset").bind readInt64? =
          some 1748779230 := by
        rw [hreset]
        decide +kernel
      apply GitHub.ResetsIn.reset _ hremaining hread
      · decide
      · rw [hafter]
        rfl
  · apply ((response_classified hclock _).1 (.organization "o") 7 _).1
    rw [Exchange.receive_removeRunner]
    have hread : GitHub.readRemoval Refusals.connection.now Refusals.busy =
        .error (.runnerBusy "busy") := by decide +kernel
    rw [hread]

end RunnerRelease
