import RunnerRelease.Proofs.Session.Listing

/-!
# The pages of a listing

A listing that succeeds has received pages up to the first one that completes it, and what it
comes to are the registrations on these pages, in the order in which they came.

## Implementation notes

`Gathers` speaks of pages alone, whoever sent them. Over the wire, the exchanges of a listing
bring such pages, one for each request, and conversely replies that are such pages are all that
a listing takes in.
-/

namespace RunnerRelease

open Http

namespace GitHub.Listing

variable {listing next : Listing} {page : RunnerPage} {pages : List RunnerPage}
  {runners : List Runner}

/-- The pages that a listing receives until one of them completes it, and what it comes to. -/
inductive Gathers : Listing → List RunnerPage → List Runner → Prop
  | last {listing : Listing} {page : RunnerPage} {runners : List Runner}
      (hpage : listing.receive page = .inr runners) : Gathers listing [page] runners
  | more {listing next : Listing} {page : RunnerPage} {pages : List RunnerPage}
      {runners : List Runner} (hpage : listing.receive page = .inl next)
      (hrest : Gathers next pages runners) : Gathers listing (page :: pages) runners

/-- A listing comes to the registrations on its pages, in their order. -/
theorem Gathers.runners_eq (h : listing.Gathers pages runners) :
    runners = listing.received ++ pages.flatMap RunnerPage.runners := by
  induction h with
  | last hpage => simpa using runners_of_receive hpage
  | more hpage _ ih => rw [ih, (page_of_receive hpage).2, List.flatMap_cons, List.append_assoc]

theorem Gathers.exists_cons (h : listing.Gathers pages runners) :
    ∃ first rest, pages = first :: rest := by
  cases h <;> exact ⟨_, _, rfl⟩

/-- A page that is empty or brings the count to the total completes a listing. -/
theorem receive_eq_inr (h : page.runners = [] ∨
      page.totalCount ≤ (listing.received ++ page.runners).length) :
    listing.receive page = .inr (listing.received ++ page.runners) :=
  if_pos h

/-- After any other page a listing goes on. -/
theorem receive_eq_inl (hsome : page.runners ≠ [])
    (hfewer : (listing.received ++ page.runners).length < page.totalCount) :
    listing.receive page =
      .inl { page := listing.page + 1, received := listing.received ++ page.runners } :=
  if_neg (not_or.2 ⟨hsome, Nat.not_le.2 hfewer⟩)

end GitHub.Listing

variable {conn : Connection} {scope : Scope} {listing : GitHub.Listing} {exchanges : List Exchanged}
  {runner : String} {runners : List Runner} {entry : Runner}

/-- The entry registers a runner, and no entry before it does. -/
def FirstRegistered (runner : String) (runners : List Runner) (entry : Runner) : Prop :=
  ∃ before after, runners = before ++ entry :: after ∧ entry.name = runner ∧ entry.id ≠ 0 ∧
    ∀ other ∈ before, ¬ (other.name = runner ∧ other.id ≠ 0)

theorem firstRegistered_of_find? (h : runners.find? (Runner.registers runner) = some entry) :
    FirstRegistered runner runners entry := by
  obtain ⟨hentry, before, after, rfl, hbefore⟩ := List.find?_eq_some_iff_append.1 h
  have hown : entry.name = runner ∧ entry.id ≠ 0 := by simpa [Runner.registers] using hentry
  refine ⟨before, after, rfl, hown.1, hown.2, ?_⟩
  rintro other hother ⟨hname, hid⟩
  simpa [Runner.registers, hname, hid] using hbefore other hother

theorem FirstRegistered.not_absent (h : FirstRegistered runner runners entry) :
    ¬ ∀ other ∈ runners, ¬ (other.name = runner ∧ other.id ≠ 0) := by
  obtain ⟨before, after, rfl, hname, hid, -⟩ := h
  exact fun habsent => habsent entry (by simp) ⟨hname, hid⟩

namespace Exchange

/-- A listing that succeeds has sent one request for each of its pages. -/
theorem Lists.exists_gathers (h : Lists conn scope listing exchanges (.ok runners)) :
    ∃ pages, listing.Gathers pages runners ∧
      exchanges.map (Exchanged.page conn.now) = pages.map Except.ok ∧
      exchanges.map (fun x => Except.ok x.request) =
        (List.range' listing.page pages.length).map (conn.github.pageRequest scope) := by
  generalize hanswer : (Except.ok runners : Except GitHub.Error (List Runner)) = answer at h
  induction h with
  | unsent _ => cases hanswer
  | failed _ _ _ => cases hanswer
  | @last listing x page found _ hrequest hpage hnext =>
      cases hanswer
      exact ⟨[page], .last hnext, by simp [hpage], by simp [hrequest]⟩
  | @more listing next x page rest answer _ hrequest hpage hnext _ ih =>
      obtain ⟨pages, hgathers, hpages, hrequests⟩ := ih hanswer
      refine ⟨page :: pages, .more hnext hgathers, by simp [hpage, hpages], ?_⟩
      rw [List.map_cons, hrequests, (GitHub.Listing.page_of_receive hnext).1, List.length_cons,
        List.range'_succ, List.map_cons, hrequest]

/-- A listing whose replies are pages that complete it succeeds, and asks for these pages only. -/
theorem Lists.of_gathers {pages : List GitHub.RunnerPage}
    {answer : Except GitHub.Error (List Runner)} (h : Lists conn scope listing exchanges answer)
    (hgathers : listing.Gathers pages runners)
    (hsend : ∀ number ∈ List.range' listing.page pages.length,
      (conn.github.pageRequest scope number).toOption.isSome)
    (hpages : ∀ (index : Nat) (x : Exchanged) (page : GitHub.RunnerPage),
      exchanges[index]? = some x → pages[index]? = some page → x.page conn.now = .ok page) :
    answer = .ok runners ∧ exchanges.map (fun x => Except.ok x.request) =
      (List.range' listing.page pages.length).map (conn.github.pageRequest scope) := by
  induction h generalizing pages with
  | unsent hrequest =>
      obtain ⟨first, rest, rfl⟩ := hgathers.exists_cons
      have hsent := hsend _ List.mem_cons_self
      rw [hrequest] at hsent
      cases hsent
  | failed _ _ hpage =>
      obtain ⟨first, rest, rfl⟩ := hgathers.exists_cons
      rw [hpages 0 _ first rfl rfl] at hpage
      cases hpage
  | last _ hrequest hpage hnext =>
      obtain ⟨first, rest, rfl⟩ := hgathers.exists_cons
      rw [hpages 0 _ first rfl rfl] at hpage
      cases hpage
      cases hgathers with
      | last hlast =>
          cases hlast.symm.trans hnext
          exact ⟨rfl, by simp [hrequest]⟩
      | more hmore _ => cases hmore.symm.trans hnext
  | more _ hrequest hpage hnext _ ih =>
      obtain ⟨first, rest, rfl⟩ := hgathers.exists_cons
      rw [hpages 0 _ first rfl rfl] at hpage
      cases hpage
      cases hgathers with
      | last hlast => cases hlast.symm.trans hnext
      | more hmore hrest =>
          cases hmore.symm.trans hnext
          have hnumber := (GitHub.Listing.page_of_receive hnext).1
          obtain ⟨hanswer, hrequests⟩ := ih hrest
            (fun number hmem => hsend number (List.mem_cons_of_mem _ (hnumber ▸ hmem)))
            (fun index x page hx hpage => hpages (index + 1) x page hx hpage)
          refine ⟨hanswer, ?_⟩
          rw [List.map_cons, hrequests, hnumber, List.length_cons, List.range'_succ,
            List.map_cons, hrequest]

end Exchange

/-- The exchanges bring all pages of a listing, which comes to these registrations. -/
def Brings (now : Int) (exchanges : List Exchanged) (runners : List Runner) : Prop :=
  ∃ pages, exchanges.map (Exchanged.page now) = pages.map Except.ok ∧
    GitHub.Listing.Gathers {} pages runners

/-- What is listed is on one of the pages. -/
theorem Brings.exists_page {now : Int} (h : Brings now exchanges runners)
    (hentry : entry ∈ runners) :
    ∃ x ∈ exchanges, ∃ page, x.page now = .ok page ∧ entry ∈ page.runners := by
  obtain ⟨pages, hpages, hgathers⟩ := h
  rw [hgathers.runners_eq] at hentry
  obtain ⟨page, hpage, hmem⟩ := List.mem_flatMap.1 hentry
  have hbrought : Except.ok page ∈ exchanges.map (Exchanged.page now) := by
    rw [hpages]
    exact List.mem_map_of_mem hpage
  obtain ⟨x, hx, hread⟩ := List.mem_map.1 hbrought
  exact ⟨x, hx, page, hread, hmem⟩

/-- All that is brought are pages. -/
theorem Brings.exists_page_eq_ok {now : Int} {x : Exchanged} (h : Brings now exchanges runners)
    (hx : x ∈ exchanges) : ∃ page, x.page now = .ok page := by
  obtain ⟨pages, hpages, -⟩ := h
  have hread : x.page now ∈ pages.map Except.ok := by
    rw [← hpages]
    exact List.mem_map_of_mem hx
  obtain ⟨page, -, hpage⟩ := List.mem_map.1 hread
  exact ⟨page, hpage.symm⟩

/-- Exchanges do not bring two listings. -/
theorem Brings.eq {now : Int} {others : List Runner} (h : Brings now exchanges runners)
    (hothers : Brings now exchanges others) : runners = others := by
  obtain ⟨pages, hpages, hgathers⟩ := h
  obtain ⟨found, hfound, hall⟩ := hothers
  obtain rfl : pages = found :=
    (List.map_inj_right fun _ _ => Except.ok.inj).1 (hpages.symm.trans hfound)
  rw [hgathers.runners_eq, hall.runners_eq]

theorem not_brings_nil {now : Int} : ¬ Brings now [] runners := by
  rintro ⟨pages, hpages, hgathers⟩
  obtain ⟨first, rest, rfl⟩ := hgathers.exists_cons
  cases hpages

/-- A listing that fails only where a page cannot be had succeeds if and only if it gets all. -/
theorem Exchange.Lists.eq_ok_iff {answer : Except GitHub.Error (List Runner)}
    (h : Lists conn scope {} exchanges answer)
    (hfails : ∀ error, answer = .error error →
      ∃ x ∈ exchanges.getLast?, x.page conn.now = .error error) :
    answer = .ok runners ↔ Brings conn.now exchanges runners := by
  have hall {found : List Runner} (hfound : answer = .ok found) :
      Brings conn.now exchanges found := by
    rw [hfound] at h
    obtain ⟨pages, hgathers, hpages, -⟩ := h.exists_gathers
    exact ⟨pages, hpages, hgathers⟩
  refine ⟨hall, fun hbrings => ?_⟩
  cases hanswer : answer with
  | ok found => rw [hbrings.eq (hall hanswer)]
  | error error =>
      obtain ⟨x, hx, hfailed⟩ := hfails error hanswer
      obtain ⟨page, hpage⟩ := hbrings.exists_page_eq_ok (List.mem_of_getLast? hx)
      cases hfailed.symm.trans hpage

/-- The page with a number, from one on, of registrations that are given out in pages of a size. -/
def pageOf (size : Nat) (registered : List Runner) (number : Nat) : GitHub.RunnerPage where
  totalCount := registered.length
  runners := (registered.drop (size * (number - 1))).take size

/-- The first pages, each of what is registered when it is asked for. -/
def pagesOf (size : Nat) (registered : Nat → List Runner) (count : Nat) : List GitHub.RunnerPage :=
  (List.range' 1 count).map fun number => pageOf size (registered number) number

/-- The replies are pages in order, each of what is registered when it is asked for. -/
def Serves (now : Int) (size : Nat) (registered : Nat → List Runner) (replies : List Reply) :
    Prop :=
  ∀ (index : Nat) (reply : Reply), replies[index]? = some reply → ∃ response,
    reply = some response ∧
      GitHub.readPage now response = .ok (pageOf size (registered (index + 1)) (index + 1))

section

variable {now : Int} {size count : Nat} {registered : Nat → List Runner} {replies : List Reply}

theorem length_pagesOf : (pagesOf size registered count).length = count := by
  rw [pagesOf, List.length_map, List.length_range']

theorem getElem?_pagesOf {index : Nat} (h : index < count) :
    (pagesOf size registered count)[index]? =
      some (pageOf size (registered (index + 1)) (index + 1)) := by
  rw [pagesOf, List.getElem?_map, List.getElem?_range' h, Nat.one_mul, Nat.add_comm]
  rfl

/-- The exchanges have got the first of the replies. -/
def Meets (exchanges : List Exchanged) (replies : List Reply) : Prop :=
  ∀ (index : Nat) (x : Exchanged), exchanges[index]? = some x → x.reply = replies[index]?.join

theorem Meets.of_append {first rest : List Exchanged} (h : Meets (first ++ rest) replies) :
    Meets first replies := by
  intro index x hx
  apply h index x
  rw [List.getElem?_append_left (List.getElem?_eq_some_iff.1 hx).1, hx]

theorem Session.meets_trace {α : Type} (conn : Connection) (p : Procedure α)
    (replies : List Reply) : Meets (Session.trace conn p replies) replies :=
  fun _ _ hx => reply_of_getElem?_exchanged hx

/-- An exchange brings the page that is served in its place. -/
theorem Serves.page_eq (h : Serves now size registered replies) (hmeets : Meets exchanges replies)
    {index : Nat} {x : Exchanged} (hx : exchanges[index]? = some x)
    (hindex : index < replies.length) :
    x.page now = .ok (pageOf size (registered (index + 1)) (index + 1)) := by
  obtain ⟨response, hreply, hread⟩ := h index _ (List.getElem?_eq_getElem hindex)
  have hgot := hmeets index x hx
  rw [List.getElem?_eq_getElem hindex, hreply] at hgot
  rw [Exchanged.page, hgot]
  exact hread

/-- Where the pages that are served complete a listing, it succeeds and asks for these pages. -/
theorem Serves.lists (h : Serves conn.now size registered replies)
    (hmeets : Meets exchanges replies) (hcount : count ≤ replies.length)
    (hgathers : GitHub.Listing.Gathers {} (pagesOf size registered count) runners)
    (hsend : ∀ number ∈ List.range' 1 count,
      (conn.github.pageRequest scope number).toOption.isSome)
    {answer : Except GitHub.Error (List Runner)}
    (hlists : Exchange.Lists conn scope {} exchanges answer) :
    answer = .ok runners ∧ exchanges.map (fun x => Except.ok x.request) =
      (List.range' 1 count).map (conn.github.pageRequest scope) := by
  have hpages : ∀ (index : Nat) (x : Exchanged) (page : GitHub.RunnerPage),
      exchanges[index]? = some x → (pagesOf size registered count)[index]? = some page →
        x.page conn.now = .ok page := by
    intro index x page hx hpage
    have hindex := (List.getElem?_eq_some_iff.1 hpage).1
    rw [length_pagesOf] at hindex
    rw [getElem?_pagesOf hindex] at hpage
    cases hpage
    exact h.page_eq hmeets hx (Nat.lt_of_lt_of_le hindex hcount)
  have hall := hlists.of_gathers hgathers (by rwa [length_pagesOf]) hpages
  rwa [length_pagesOf] at hall

/-- A listing that succeeds has received the pages that are served. -/
theorem Serves.gathers (h : Serves conn.now size registered replies)
    (hmeets : Meets exchanges replies)
    (hlists : Exchange.Lists conn scope {} exchanges (.ok runners)) :
    GitHub.Listing.Gathers {} (pagesOf size registered exchanges.length) runners := by
  obtain ⟨pages, hgathers, hbrought, -⟩ := hlists.exists_gathers
  have hlength : exchanges.length = pages.length := by simpa using congrArg List.length hbrought
  have hpages : pages = pagesOf size registered exchanges.length := by
    apply List.ext_getElem?
    intro index
    by_cases hindex : index < exchanges.length
    · have hx := List.getElem?_eq_getElem hindex
      have hpage : pages[index]? = some (pageOf size (registered (index + 1)) (index + 1)) := by
        have hgot := congrArg (·[index]?) hbrought
        simp only [List.getElem?_map, hx, Option.map_some] at hgot
        obtain ⟨page, hpage, hsame⟩ := Option.map_eq_some_iff.1 hgot.symm
        rw [hpage]
        by_cases hreply : index < replies.length
        · rw [h.page_eq hmeets hx hreply] at hsame
          cases hsame
          rfl
        · rw [Exchanged.page, hmeets index _ hx,
            List.getElem?_eq_none (Nat.not_lt.1 hreply)] at hsame
          cases hsame
      rw [hpage, getElem?_pagesOf hindex]
    · rw [List.getElem?_eq_none (by omega), List.getElem?_eq_none (by rw [length_pagesOf]; omega)]
  rwa [← hpages]

end

end RunnerRelease
