import RunnerRelease.Proofs.Session.Failures

/-!
# Listings over the wire

A listing asks for page after page, from the first one on, and comes to what its pages say.

## Implementation notes

`Lists` also describes a listing that comes to an end because a request cannot be put together.
`Lists.requests` excludes that: it needs requests for one page more than have been received.
-/

namespace RunnerRelease

open Http

/-- The page that an exchange brings. -/
def Exchanged.page (now : Int) (x : Exchanged) : Except GitHub.Error GitHub.RunnerPage :=
  x.reply.elim (.error (.http .request)) (GitHub.readPage now)

variable {conn : Connection} {scope : Scope} {listing : GitHub.Listing}

theorem GitHub.Listing.page_of_receive {page : GitHub.RunnerPage} {next : GitHub.Listing}
    (h : listing.receive page = .inl next) :
    next.page = listing.page + 1 ∧ next.received = listing.received ++ page.runners := by
  rw [receive] at h
  split at h
  · cases h
  · cases h
    exact ⟨rfl, rfl⟩

theorem GitHub.Listing.runners_of_receive {page : GitHub.RunnerPage} {runners : List Runner}
    (h : listing.receive page = .inr runners) : runners = listing.received ++ page.runners := by
  rw [receive] at h
  split at h
  · cases h
    rfl
  · cases h

namespace Exchange

/-- The request that a listing sends is the one for the page that is due. -/
theorem pageRequest_of_listingStep {request : Request} {progress : GitHub.Listing}
    (h : listingStep conn scope listing = .sending request progress) :
    conn.github.pageRequest scope listing.page = .ok request ∧ listing = progress := by
  rw [listingStep] at h
  split at h
  · cases h
  · rename_i hrequest
    cases h
    exact ⟨hrequest, rfl⟩

/--
How a listing is carried out: one page after the other, until a request cannot be put together,
a page cannot be had, or a page completes the listing.
-/
inductive Lists (conn : Connection) (scope : Scope) :
    GitHub.Listing → List Exchanged → Except GitHub.Error (List Runner) → Prop
  | unsent {listing : GitHub.Listing} {error : GitHub.Error}
      (hrequest : conn.github.pageRequest scope listing.page = .error error) :
      Lists conn scope listing [] (.error error)
  | failed {listing : GitHub.Listing} {x : Exchanged} {error : GitHub.Error}
      (hcall : x.call = .listRunners scope)
      (hrequest : conn.github.pageRequest scope listing.page = .ok x.request)
      (hpage : x.page conn.now = .error error) : Lists conn scope listing [x] (.error error)
  | last {listing : GitHub.Listing} {x : Exchanged} {page : GitHub.RunnerPage}
      {runners : List Runner} (hcall : x.call = .listRunners scope)
      (hrequest : conn.github.pageRequest scope listing.page = .ok x.request)
      (hpage : x.page conn.now = .ok page) (hnext : listing.receive page = .inr runners) :
      Lists conn scope listing [x] (.ok runners)
  | more {listing next : GitHub.Listing} {x : Exchanged} {page : GitHub.RunnerPage}
      {rest : List Exchanged} {answer : Except GitHub.Error (List Runner)}
      (hcall : x.call = .listRunners scope)
      (hrequest : conn.github.pageRequest scope listing.page = .ok x.request)
      (hpage : x.page conn.now = .ok page) (hnext : listing.receive page = .inl next)
      (hrest : Lists conn scope next rest answer) : Lists conn scope listing (x :: rest) answer

theorem Lists.exists_pageRequest {trace : List Exchanged}
    {answer : Except GitHub.Error (List Runner)} (h : Lists conn scope listing trace answer) :
    ∀ x ∈ trace, ∃ page, conn.github.pageRequest scope page = .ok x.request := by
  induction h with
  | unsent _ => simp
  | failed _ hrequest _ => exact List.forall_mem_singleton.2 ⟨_, hrequest⟩
  | last _ hrequest _ _ => exact List.forall_mem_singleton.2 ⟨_, hrequest⟩
  | more _ hrequest _ _ _ ih => exact List.forall_mem_cons.2 ⟨⟨_, hrequest⟩, ih⟩

/-- The exchanges of a listing are those for its pages. -/
theorem Completes.lists {trace : List Exchanged} {answer : Except GitHub.Error (List Runner)}
    (h : (listingStep conn scope listing).Completes conn trace answer) :
    Lists conn scope listing trace answer := by
  generalize hstep : listingStep conn scope listing = exchange at h
  induction h generalizing listing with
  | answered answer =>
      rw [listingStep] at hstep
      split at hstep
      · cases hstep
        rename_i hrequest
        exact .unsent hrequest
      · cases hstep
  | lost request progress =>
      obtain ⟨hrequest, -⟩ := pageRequest_of_listingStep hstep
      exact .failed rfl hrequest rfl
  | @received request progress response rest answer hrest ih =>
      obtain ⟨hrequest, rfl⟩ := pageRequest_of_listingStep hstep
      cases hread : GitHub.readPage conn.now response with
      | error error =>
          simp only [receive, hread] at hrest
          cases hrest
          exact .failed rfl hrequest hread
      | ok page =>
          cases hnext : listing.receive page with
          | inr runners =>
              simp only [receive, hread, hnext] at hrest
              cases hrest
              exact .last rfl hrequest hread hnext
          | inl next =>
              exact .more rfl hrequest hread hnext (ih (by simp only [receive, hread, hnext]))

/-- A listing begins with nothing received. -/
theorem Completes.lists_of_start {trace : List Exchanged}
    {answer : Except GitHub.Error (List Runner)}
    (h : (start conn (.listRunners scope)).2.Completes conn trace answer) :
    Lists conn scope {} trace answer := by
  simp only [start] at h
  exact h.lists

/--
As long as the requests can be put together, a listing takes at least one exchange, asks for one
page after the other, and fails only if the last of them cannot be had.
-/
theorem Lists.requests {trace : List Exchanged} {answer : Except GitHub.Error (List Runner)}
    (h : Lists conn scope listing trace answer)
    (hpages : ∀ page ≤ listing.page + trace.countP (fun x => x.reply.isSome),
      (conn.github.pageRequest scope page).toOption.isSome) :
    trace ≠ [] ∧
      trace.map (fun x => Except.ok x.request) =
        (List.range' listing.page trace.length).map (conn.github.pageRequest scope) ∧
      ∀ error, answer = .error error → ∃ x ∈ trace.getLast?, x.page conn.now = .error error := by
  -- every page that is received takes the listing one page on
  induction h with
  | unsent hrequest =>
      have hsent := hpages _ (Nat.le_add_right _ _)
      rw [hrequest] at hsent
      cases hsent
  | failed _ hrequest hpage =>
      refine ⟨by simp, by simp [hrequest], ?_⟩
      rintro error ⟨⟩
      exact ⟨_, rfl, hpage⟩
  | last _ hrequest _ _ => exact ⟨by simp, by simp [hrequest], by simp⟩
  | @more listing next x page rest answer _ hrequest hpage hnext _ ih =>
      obtain ⟨hnumber, -⟩ := GitHub.Listing.page_of_receive hnext
      have hreply : x.reply.isSome := by
        cases hreply : x.reply with
        | none => simp [Exchanged.page, hreply] at hpage
        | some response => rfl
      have hnextPages : ∀ page ≤ next.page + rest.countP (fun x => x.reply.isSome),
          (conn.github.pageRequest scope page).toOption.isSome := by
        intro number hle
        apply hpages
        simp only [List.countP_cons, hreply, if_true]
        omega
      obtain ⟨hne, hrequests, hfails⟩ := ih hnextPages
      refine ⟨by simp, ?_, ?_⟩
      · rw [List.map_cons, hrequests, hnumber, List.length_cons, List.range'_succ,
          List.map_cons, hrequest]
      · obtain ⟨y, later, rfl⟩ := List.exists_cons_of_ne_nil hne
        rwa [List.getLast?_cons_cons]

end Exchange

end RunnerRelease
