import Mathlib.Data.List.Basic
import RunnerRelease.Proofs.GitHub.Request
import RunnerRelease.Proofs.Registry.Pages

/-!
# Listings of a steady registry

Where nothing changes between the requests, a listing comes to exactly what is registered, and
asks for as many pages as that fills, but for one at least.

## Implementation notes

The size of the pages is the server's: it may give out fewer registrations at a time than it is
asked for.
-/

namespace RunnerRelease

open Http Procedure

/-- The number of pages that registrations fill, at least one. -/
def pageCount (size : Nat) (registered : List Runner) : Nat :=
  max 1 ((registered.length + size - 1) / size)

section

variable {size number : Nat} {registered : List Runner}

theorem one_le_pageCount (size : Nat) (registered : List Runner) : 1 ≤ pageCount size registered :=
  Nat.le_max_left _ _

theorem length_le_mul_pageCount (hsize : 1 ≤ size) (registered : List Runner) :
    registered.length ≤ size * pageCount size registered := by
  have hdiv := Nat.div_add_mod (registered.length + size - 1) size
  have hmod := Nat.mod_lt (registered.length + size - 1) hsize
  calc
    registered.length ≤ size * ((registered.length + size - 1) / size) := by omega
    _ ≤ size * pageCount size registered := Nat.mul_le_mul_left _ (Nat.le_max_right _ _)

theorem mul_lt_length_of_lt_pageCount (hsize : 1 ≤ size) (hfirst : 1 ≤ number)
    (hnumber : number < pageCount size registered) : size * number < registered.length := by
  have hquotient : number + 1 ≤ (registered.length + size - 1) / size := by
    rw [pageCount] at hnumber
    omega
  have hfilled := (Nat.le_div_iff_mul_le hsize).1 hquotient
  rw [Nat.add_mul, Nat.one_mul, Nat.mul_comm] at hfilled
  omega

/-- With one more page, the registrations are listed up to its end. -/
theorem take_append_pageOf (size : Nat) (registered : List Runner) (hfirst : 1 ≤ number) :
    registered.take (size * (number - 1)) ++ (pageOf size registered number).runners =
      registered.take (size * number) := by
  obtain ⟨before, rfl⟩ := Nat.exists_eq_add_of_le' hfirst
  rw [pageOf, Nat.add_sub_cancel, Nat.mul_succ, List.take_add]

/-- From any page on, a listing gathers the pages up to the last one. -/
theorem gathers_from (hsize : 1 ≤ size) (hfirst : 1 ≤ number) (later : Nat)
    (hlast : number + later = pageCount size registered) :
    GitHub.Listing.Gathers ⟨number, registered.take (size * (number - 1))⟩
      ((List.range' number (later + 1)).map (pageOf size registered)) registered := by
  induction later generalizing number with
  | zero =>
      have hreceived := take_append_pageOf size registered hfirst
      have hall : registered.length ≤ size * number := by
        rw [show number = pageCount size registered from hlast]
        exact length_le_mul_pageCount hsize registered
      rw [List.take_of_length_le hall] at hreceived
      have hfull : (pageOf size registered number).totalCount ≤
          (registered.take (size * (number - 1)) ++
            (pageOf size registered number).runners).length := by
        rw [hreceived]
        exact Nat.le_refl _
      have hnext : GitHub.Listing.receive ⟨number, registered.take (size * (number - 1))⟩
          (pageOf size registered number) = .inr registered := by
        rw [GitHub.Listing.receive_eq_inr (.inr hfull), hreceived]
      rw [List.range'_succ, List.map_cons]
      exact .last hnext
  | succ later ih =>
      have hreceived := take_append_pageOf size registered hfirst
      have hlater : number < pageCount size registered := by omega
      have hmore := mul_lt_length_of_lt_pageCount hsize hfirst hlater
      have hsome : (pageOf size registered number).runners ≠ [] := by
        have hbefore : size * (number - 1) ≤ size * number :=
          Nat.mul_le_mul_left _ (Nat.sub_le _ _)
        simp only [pageOf, ne_eq, List.take_eq_nil_iff, List.drop_eq_nil_iff]
        omega
      have hfewer : (registered.take (size * (number - 1)) ++
          (pageOf size registered number).runners).length <
            (pageOf size registered number).totalCount := by
        rw [hreceived]
        exact Nat.lt_of_le_of_lt (List.length_take_le _ _) hmore
      have hnext : GitHub.Listing.receive ⟨number, registered.take (size * (number - 1))⟩
          (pageOf size registered number) = .inl ⟨number + 1, registered.take (size * number)⟩ := by
        rw [← hreceived]
        exact GitHub.Listing.receive_eq_inl hsome hfewer
      have hrest := ih (Nat.le_add_left 1 number)
        ((Nat.succ_add_eq_add_succ number later).trans hlast)
      rw [List.range'_succ, List.map_cons]
      exact .more hnext hrest

/--
A steady registry is listed as it is, whatever the size of its pages, by as many requests as it
fills pages. These ask for the pages by their numbers, in order from the first one on, at the
address of the scope.
-/
theorem steady_registry_listed (conn : Connection) (scope : Scope) {size : Nat} (hsize : 1 ≤ size)
    (registered : List Runner) {replies : List Reply}
    (hserves : Serves conn.now size (fun _ => registered) replies)
    (hreplies : pageCount size registered ≤ replies.length)
    (hsend : ∀ number ≤ pageCount size registered,
      (conn.github.pageRequest scope number).toOption.isSome) :
    let run := Session.run conn (ask (.listRunners scope)) replies
    run.result = .ok registered ∧
      ∃ address, conn.github.ListsAt scope address ∧ Event.requests run.events =
        (List.range' 1 (pageCount size registered)).map (conn.github.pageAt address) := by
  intro run
  have hgathers : GitHub.Listing.Gathers {}
      (pagesOf size (fun _ => registered) (pageCount size registered)) registered := by
    obtain ⟨later, hcount⟩ := Nat.exists_eq_add_of_le (one_le_pageCount size registered)
    have hall := gathers_from hsize (Nat.le_refl 1) later hcount.symm
    rwa [Nat.add_comm later, ← hcount] at hall
  have hsends : ∀ number ∈ List.range' 1 (pageCount size registered),
      (conn.github.pageRequest scope number).toOption.isSome := by
    intro number hnumber
    rw [List.mem_range'_1] at hnumber
    exact hsend number (by omega)
  have hlists := (Session.completes_run_ask conn (.listRunners scope) replies).lists_of_start
  have hmeets := Session.meets_trace conn (ask (.listRunners scope)) replies
  obtain ⟨hresult, hrequests⟩ := hserves.lists hmeets hreplies hgathers hsends hlists
  refine ⟨hresult, ?_⟩
  apply GitHub.Client.exists_listsAt_of_map_ok (hsend _ (one_le_pageCount size registered))
  rw [← hrequests, ← requests_exchanged run.events replies, List.map_map]
  rfl

end

namespace TwoPages

/-! Three registrations on a server that gives out two at a time. -/

def connection : Connection where
  github := { baseUrl := "http://h", token := "t", userAgent := "a" }
  kubernetes := { defaultNamespace := "default" }
  now := 0

def registered : List Runner := [⟨1, "w0", false, ""⟩, ⟨2, "w1", true, ""⟩, ⟨3, "w2", false, ""⟩]

def replies : List Reply := [
  some {
    status := 200
    body := Text.toBytes ("\x7b\"total_count\":3,\"runners\":[\x7b\"id\":1,\"name\":\"w0\"\x7d," ++
      "\x7b\"id\":2,\"name\":\"w1\",\"busy\":true\x7d]\x7d") },
  some {
    status := 200
    body := Text.toBytes
      "\x7b\"total_count\":3,\"runners\":[\x7b\"id\":3,\"name\":\"w2\"\x7d]\x7d" }]

theorem serves : Serves connection.now 2 (fun _ => registered) replies := by
  intro index reply hreply
  match index with
  | 0 =>
      cases hreply
      exact ⟨_, rfl, by decide +kernel⟩
  | 1 =>
      cases hreply
      exact ⟨_, rfl, by decide +kernel⟩
  | index + 2 => cases hreply

end TwoPages

/-- Three registrations are listed by two requests, for the first page and the second. -/
theorem steady_registry_listed_by_two_requests :
    let run := Session.run TwoPages.connection (ask (.listRunners (.organization "acme")))
      TwoPages.replies
    run.result = .ok TwoPages.registered ∧
      (Event.requests run.events).map (fun request => (request.method, request.target)) = [
        ("GET", "/orgs/acme/actions/runners?per_page=100&page=1"),
        ("GET", "/orgs/acme/actions/runners?per_page=100&page=2")] := by
  intro run
  obtain ⟨hresult, address, hlists, hrequests⟩ := steady_registry_listed TwoPages.connection
    (.organization "acme") (by decide) TwoPages.registered TwoPages.serves (by decide)
    (by decide +kernel)
  obtain ⟨url, hurl, rfl⟩ := hlists.read
  have hread : Url.parse? "http://h/orgs/acme/actions/runners" =
      some ⟨false, "h", none, ["orgs", "acme", "actions", "runners"], none⟩ := by decide +kernel
  cases hread.symm.trans hurl
  refine ⟨hresult, ?_⟩
  rw [hrequests]
  decide +kernel

end RunnerRelease
