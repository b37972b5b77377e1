import Mathlib.Data.Nat.Find
import RunnerRelease.Proofs.GitHub.Request
import RunnerRelease.Proofs.Registry.Pages

/-!
# The last page of a listing

Whatever a server says to the requests for pages, a listing ends with the first page that cannot
be had, that is empty, or whose total has been reached. It asks for the pages up to that one, and
comes to all of them or to the failure of the last.

## Implementation notes

A server is given by what it says to each page, for every number, whether that page is asked for
or not. That there is a last page is then a statement about the pages alone: before it, every
page brings a registration, so a total that is reached after as many pages bounds their number.
-/

namespace RunnerRelease

open Http Procedure

/-- The page that a reply brings. -/
def replyPage (now : Int) (reply : Reply) : Except GitHub.Error GitHub.RunnerPage :=
  reply.elim (.error (.http .request)) (GitHub.readPage now)

/-- The registrations on the pages from the first one up to a number. -/
def receivedUpTo (pages : Nat → Except GitHub.Error GitHub.RunnerPage) (number : Nat) :
    List Runner :=
  (List.range' 1 number).flatMap fun earlier =>
    match pages earlier with
    | .error _ => []
    | .ok page => page.runners

/-- A page with which a listing ends, if it gets that far. -/
def EndsAt (pages : Nat → Except GitHub.Error GitHub.RunnerPage) (number : Nat) : Prop :=
  match pages number with
  | .error _ => True
  | .ok page => page.runners = [] ∨ page.totalCount ≤ (receivedUpTo pages number).length

/-- The first page with which a listing ends. -/
structure IsLastPage (pages : Nat → Except GitHub.Error GitHub.RunnerPage) (last : Nat) :
    Prop where
  one_le : 1 ≤ last
  ends : EndsAt pages last
  first : ∀ number, 1 ≤ number → number < last → ¬ EndsAt pages number

section

variable {pages : Nat → Except GitHub.Error GitHub.RunnerPage} {number last : Nat}
  {page : GitHub.RunnerPage}

theorem receivedUpTo_of_ok (hfirst : 1 ≤ number) (hpage : pages number = .ok page) :
    receivedUpTo pages number = receivedUpTo pages (number - 1) ++ page.runners := by
  obtain ⟨before, rfl⟩ := Nat.exists_eq_add_of_le' hfirst
  rw [receivedUpTo, List.range'_1_concat, List.flatMap_append, Nat.add_comm 1 before,
    List.flatMap_singleton, hpage, Nat.add_sub_cancel, receivedUpTo]

theorem endsAt_of_error {error : GitHub.Error} (hpage : pages number = .error error) :
    EndsAt pages number := by
  rw [EndsAt, hpage]
  trivial

theorem endsAt_iff_of_ok (hpage : pages number = .ok page) :
    EndsAt pages number ↔
      page.runners = [] ∨ page.totalCount ≤ (receivedUpTo pages number).length := by
  rw [EndsAt, hpage]

instance : DecidablePred (EndsAt pages) := fun number =>
  match hpage : pages number with
  | .error _ => .isTrue (endsAt_of_error hpage)
  | .ok _ => decidable_of_iff _ (endsAt_iff_of_ok hpage).symm

/-- A page that does not end the listing is there, and brings a registration. -/
theorem exists_page_of_not_endsAt (h : ¬ EndsAt pages number) :
    ∃ page, pages number = .ok page ∧ page.runners ≠ [] ∧
      (receivedUpTo pages number).length < page.totalCount := by
  cases hpage : pages number with
  | error error => exact absurd (endsAt_of_error hpage) h
  | ok page =>
      rw [endsAt_iff_of_ok hpage, not_or, Nat.not_le] at h
      exact ⟨page, rfl, h⟩

/-- As long as no page has ended the listing, there are as many registrations as pages. -/
theorem le_length_receivedUpTo
    (h : ∀ earlier, 1 ≤ earlier → earlier ≤ number → ¬ EndsAt pages earlier) :
    number ≤ (receivedUpTo pages number).length := by
  induction number with
  | zero => exact Nat.zero_le _
  | succ number ih =>
      have hbefore := ih fun earlier hfirst hle => h earlier hfirst (Nat.le_succ_of_le hle)
      obtain ⟨page, hpage, hsome, -⟩ :=
        exists_page_of_not_endsAt (h (number + 1) (Nat.le_add_left 1 number) (Nat.le_refl _))
      have hrunners : 1 ≤ page.runners.length := List.length_pos_iff.2 hsome
      rw [receivedUpTo_of_ok (Nat.le_add_left 1 number) hpage, List.length_append,
        Nat.add_sub_cancel]
      omega

/-- If a listing ends with some page, there is a first such page. -/
theorem exists_isLastPage_of_endsAt (hfirst : 1 ≤ number) (h : EndsAt pages number) :
    ∃ last ≤ number, IsLastPage pages last := by
  have hexists : ∃ last, 1 ≤ last ∧ EndsAt pages last := ⟨number, hfirst, h⟩
  obtain ⟨hone, hends⟩ := Nat.find_spec hexists
  refine ⟨Nat.find hexists, Nat.find_min' hexists ⟨hfirst, h⟩, hone, hends, ?_⟩
  intro earlier hearlier hlt hearlierEnds
  exact Nat.find_min hexists hlt ⟨hearlier, hearlierEnds⟩

/-- Pages whose totals are bounded have a last one, which the bound counts as well. -/
theorem exists_isLastPage_of_bounded {total : Nat}
    (h : ∀ number page, 1 ≤ number → pages number = .ok page → page.totalCount ≤ total) :
    ∃ last ≤ max 1 total, IsLastPage pages last := by
  by_cases hends : ∃ number, 1 ≤ number ∧ number ≤ max 1 total ∧ EndsAt pages number
  · obtain ⟨number, hfirst, hle, hends⟩ := hends
    obtain ⟨last, hlast, hisLast⟩ := exists_isLastPage_of_endsAt hfirst hends
    exact ⟨last, Nat.le_trans hlast hle, hisLast⟩
  · -- otherwise the page with the number of the bound would have a greater total
    have hnone (number : Nat) (hfirst : 1 ≤ number) (hle : number ≤ max 1 total) :
        ¬ EndsAt pages number := by
      intro hnumber
      exact hends ⟨number, hfirst, hle, hnumber⟩
    obtain ⟨page, hpage, -, hmore⟩ :=
      exists_page_of_not_endsAt (hnone (max 1 total) (Nat.le_max_left _ _) (Nat.le_refl _))
    apply absurd _ (Nat.lt_irrefl (max 1 total))
    calc
      max 1 total ≤ (receivedUpTo pages (max 1 total)).length := le_length_receivedUpTo hnone
      _ < page.totalCount := hmore
      _ ≤ total := h _ page (Nat.le_max_left _ _) hpage
      _ ≤ max 1 total := Nat.le_max_right _ _

/-- The last page is the only one up to it that ends the listing. -/
theorem IsLastPage.eq_of_endsAt (h : IsLastPage pages last) (hfirst : 1 ≤ number)
    (hle : number ≤ last) (hends : EndsAt pages number) : number = last := by
  by_contra hne
  exact h.first number hfirst (Nat.lt_of_le_of_ne hle hne) hends

/-- A page that ends a listing which has got so far completes it. -/
theorem receive_of_endsAt {listing : GitHub.Listing} (hfirst : 1 ≤ listing.page)
    (hreceived : listing.received = receivedUpTo pages (listing.page - 1))
    (hpage : pages listing.page = .ok page) (h : EndsAt pages listing.page) :
    listing.receive page = .inr (receivedUpTo pages listing.page) := by
  rw [endsAt_iff_of_ok hpage, receivedUpTo_of_ok hfirst hpage, ← hreceived] at h
  rw [receivedUpTo_of_ok hfirst hpage, ← hreceived]
  exact GitHub.Listing.receive_eq_inr h

/-- With any other page it has got one page further. -/
theorem receive_of_not_endsAt {listing : GitHub.Listing} (hfirst : 1 ≤ listing.page)
    (hreceived : listing.received = receivedUpTo pages (listing.page - 1))
    (hpage : pages listing.page = .ok page) (h : ¬ EndsAt pages listing.page) :
    listing.receive page = .inl ⟨listing.page + 1, receivedUpTo pages listing.page⟩ := by
  rw [endsAt_iff_of_ok hpage, not_or, Nat.not_le] at h
  rw [receivedUpTo_of_ok hfirst hpage, ← hreceived] at h ⊢
  exact GitHub.Listing.receive_eq_inl h.1 h.2

end

section

variable {conn : Connection} {scope : Scope} {listing : GitHub.Listing} {exchanges : List Exchanged}
  {pages : Nat → Except GitHub.Error GitHub.RunnerPage} {last : Nat}

/-- A listing that has got so far goes on up to the last page, and comes to what that page says. -/
theorem Exchange.Lists.of_isLastPage {answer : Except GitHub.Error (List Runner)}
    (h : Lists conn scope listing exchanges answer) (hlast : IsLastPage pages last)
    (hfirst : 1 ≤ listing.page) (hle : listing.page ≤ last)
    (hreceived : listing.received = receivedUpTo pages (listing.page - 1))
    (hsend : ∀ number ≤ last, (conn.github.pageRequest scope number).toOption.isSome)
    (hpages : ∀ (index : Nat) (x : Exchanged), exchanges[index]? = some x →
      listing.page + index ≤ last → x.page conn.now = pages (listing.page + index)) :
    exchanges.map (fun x => Except.ok x.request) =
        (List.range' listing.page (last + 1 - listing.page)).map (conn.github.pageRequest scope) ∧
      answer = (pages last).map fun _ => receivedUpTo pages last := by
  induction h with
  | @unsent listing error hrequest =>
      have hsent := hsend _ hle
      rw [hrequest] at hsent
      cases hsent
  | @failed listing x error _ hrequest hpage =>
      rw [hpages 0 x rfl hle, Nat.add_zero] at hpage
      obtain rfl := hlast.eq_of_endsAt hfirst hle (endsAt_of_error hpage)
      rw [hpage, Nat.add_sub_cancel_left]
      exact ⟨by simp [hrequest], rfl⟩
  | @last listing x page runners _ hrequest hpage hnext =>
      rw [hpages 0 x rfl hle, Nat.add_zero] at hpage
      by_cases hends : EndsAt pages listing.page
      · rw [receive_of_endsAt hfirst hreceived hpage hends] at hnext
        cases hnext
        obtain rfl := hlast.eq_of_endsAt hfirst hle hends
        rw [hpage, Nat.add_sub_cancel_left]
        exact ⟨by simp [hrequest], rfl⟩
      · rw [receive_of_not_endsAt hfirst hreceived hpage hends] at hnext
        cases hnext
  | @more listing next x page rest answer _ hrequest hpage hnext _ ih =>
      rw [hpages 0 x rfl hle, Nat.add_zero] at hpage
      by_cases hends : EndsAt pages listing.page
      · rw [receive_of_endsAt hfirst hreceived hpage hends] at hnext
        cases hnext
      · rw [receive_of_not_endsAt hfirst hreceived hpage hends] at hnext
        cases hnext
        have hlt : listing.page < last := by
          apply Nat.lt_of_le_of_ne hle
          rintro rfl
          exact hends hlast.ends
        have hlater : ∀ (index : Nat) (y : Exchanged), rest[index]? = some y →
            listing.page + 1 + index ≤ last →
              y.page conn.now = pages (listing.page + 1 + index) := by
          intro index y hy hindex
          rw [Nat.add_right_comm] at hindex ⊢
          exact hpages (index + 1) y hy hindex
        obtain ⟨hrequests, hanswer⟩ := ih (Nat.le_add_left 1 _) hlt rfl hlater
        refine ⟨?_, hanswer⟩
        have hcount : last + 1 - listing.page = last + 1 - (listing.page + 1) + 1 := by omega
        rw [List.map_cons, hrequests, hcount, List.range'_succ, List.map_cons, hrequest]

/--
Whatever a server says to the requests for pages: if there is a last page, a listing asks exactly
for the pages up to it, by their numbers and at the address of the scope, and comes to the
registrations on all of them, or to the failure of the last alone. There is a last page if the
totals are bounded, and the bound is one on its number.
-/
theorem listing_ends_with_last_page (conn : Connection) (scope : Scope) (server : Nat → Reply) :
    let pages := fun number => replyPage conn.now (server number)
    (∀ last, IsLastPage pages last → ∀ replies : List Reply,
      (∀ index < last, replies[index]?.join = server (index + 1)) →
      (∀ number ≤ last, (conn.github.pageRequest scope number).toOption.isSome) →
        let run := Session.run conn (ask (.listRunners scope)) replies
        (∃ address, conn.github.ListsAt scope address ∧
            Event.requests run.events =
              (List.range' 1 last).map (conn.github.pageAt address)) ∧
          run.result =
            match pages last with
            | .error error => .error error
            | .ok _ => .ok (receivedUpTo pages last)) ∧
    ∀ total,
      (∀ number page, 1 ≤ number → pages number = .ok page → page.totalCount ≤ total) →
      ∃ last ≤ max 1 total, IsLastPage pages last := by
  intro pages
  constructor
  · intro last hlast replies hserver hsend run
    have hlists := (Session.completes_run_ask conn (.listRunners scope) replies).lists_of_start
    have hmeets := Session.meets_trace conn (ask (.listRunners scope)) replies
    have hpages (index : Nat) (x : Exchanged)
        (hx : (Session.trace conn (ask (.listRunners scope)) replies)[index]? = some x)
        (hindex : 1 + index ≤ last) : x.page conn.now = pages (1 + index) := by
      rw [Exchanged.page, hmeets index x hx, hserver index (by omega), Nat.add_comm 1 index]
      rfl
    obtain ⟨hrequests, hresult⟩ :=
      hlists.of_isLastPage hlast (Nat.le_refl 1) hlast.one_le rfl hsend hpages
    constructor
    · apply GitHub.Client.exists_listsAt_of_map_ok (hsend last (Nat.le_refl last))
      rw [← requests_exchanged run.events replies, List.map_map]
      exact hrequests
    · rw [hresult]
      cases pages last <;> rfl
  · intro total htotal
    exact exists_isLastPage_of_bounded htotal

end

namespace LostPage

/-! The first page announces more registrations than it brings; the second one is not granted. -/

def connection : Connection where
  github := { baseUrl := "http://h", token := "t", userAgent := "a" }
  kubernetes := { defaultNamespace := "default" }
  now := 0

def replies : List Reply := [
  some {
    status := 200
    body := Text.toBytes
      "\x7b\"total_count\":9,\"runners\":[\x7b\"id\":1,\"name\":\"w0\"\x7d]\x7d" },
  some { status := 500 }]

def server (number : Nat) : Reply := replies[number - 1]?.join

def pages (number : Nat) : Except GitHub.Error GitHub.RunnerPage :=
  replyPage connection.now (server number)

theorem isLastPage : IsLastPage pages 2 where
  one_le := by decide
  ends := by decide +kernel
  first := by
    intro number hfirst hlt
    obtain rfl : number = 1 := by omega
    decide +kernel

theorem totalCount_le (number : Nat) (page : GitHub.RunnerPage) (hfirst : 1 ≤ number)
    (hpage : pages number = .ok page) : page.totalCount ≤ 9 := by
  match number with
  | 1 =>
      have hfirstPage : pages 1 = .ok { totalCount := 9, runners := [⟨1, "w0", false, ""⟩] } := by
        decide +kernel
      cases hfirstPage.symm.trans hpage
      exact Nat.le_refl 9
  | 2 =>
      have hrefused : pages 2 = .error (.api 500 "") := by decide +kernel
      cases hrefused.symm.trans hpage
  | number + 3 => cases hpage

end LostPage

/-- The registration on the first page is not among what the listing comes to. -/
theorem listing_ends_with_lost_page :
    let run := Session.run LostPage.connection (ask (.listRunners (.organization "acme")))
      LostPage.replies
    (Event.requests run.events).map (fun request => (request.method, request.target)) = [
        ("GET", "/orgs/acme/actions/runners?per_page=100&page=1"),
        ("GET", "/orgs/acme/actions/runners?per_page=100&page=2")] ∧
      run.result = .error (.api 500 "") ∧ ∃ last ≤ max 1 9, IsLastPage LostPage.pages last := by
  intro run
  obtain ⟨hends, hbounded⟩ :=
    listing_ends_with_last_page LostPage.connection (.organization "acme") LostPage.server
  obtain ⟨⟨address, hlists, hrequests⟩, hresult⟩ :=
    hends 2 LostPage.isLastPage LostPage.replies (fun _ _ => rfl) (by decide +kernel)
  refine ⟨?_, ?_, hbounded 9 LostPage.totalCount_le⟩
  · obtain ⟨url, hurl, rfl⟩ := hlists.read
    have hread : Url.parse? "http://h/orgs/acme/actions/runners" =
        some ⟨false, "h", none, ["orgs", "acme", "actions", "runners"], none⟩ := by decide +kernel
    cases hread.symm.trans hurl
    rw [hrequests]
    decide +kernel
  · have hrefused : LostPage.pages 2 = .error (.api 500 "") := by decide +kernel
    have hanswer : run.result =
        match LostPage.pages 2 with
        | .error error => .error error
        | .ok _ => .ok (receivedUpTo LostPage.pages 2) := hresult
    rw [hanswer, hrefused]

end RunnerRelease
