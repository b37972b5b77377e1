import Mathlib.Data.List.Basic
import Mathlib.Data.List.Nodup
import RunnerRelease.Proofs.Registry.Removal
import RunnerRelease.Proofs.Text.Ascii

/-!
# Listings of a registry that changes

While a listing goes on, registrations may come and go between its requests. One that stays is
listed unless it slides back: others before it leave just when it stands behind the page that has
been received, and take it over the edge onto that page, which is not asked for again.

## Implementation notes

Registrations are told apart by their numbers, since what else an entry says may change. The
position of one that stays can only shrink when another before it leaves; whatever joins, before
it or behind it, does no harm.
-/

namespace RunnerRelease

open Http Procedure

/-- The numbers of some registrations, in their order. -/
def numbers (runners : List Runner) : List Int := runners.map Runner.id

/-- The place of a number among registrations, from zero on. -/
def place (runners : List Runner) (id : Int) : Nat := (numbers runners).idxOf id

/--
What is registered when each request is made: no number twice, and those that stay from one
request to the next keep their order.
-/
structure History (registered : Nat → List Runner) : Prop where
  nodup : ∀ number, (numbers (registered number)).Nodup
  order : ∀ number,
    (numbers (registered number)).filter (· ∈ numbers (registered (number + 1))) =
      (numbers (registered (number + 1))).filter (· ∈ numbers (registered number))

/--
Between two of the requests a registration has gone from behind the page that had been received
to a place on that page, because another one before it has left.
-/
def SlidBack (size : Nat) (registered : Nat → List Runner) (id : Int) (requests : Nat) : Prop :=
  ∃ number, 1 ≤ number ∧ number < requests ∧
    size * number ≤ place (registered number) id ∧
    place (registered (number + 1)) id < size * number ∧
    ∃ gone ∈ (numbers (registered number)).take (place (registered number) id),
      gone ∉ numbers (registered (number + 1))

section

variable {size number : Nat} {registered : Nat → List Runner} {id : Int} {runners : List Runner}

/-- The place in a filtered list is the number of elements before it that are kept. -/
theorem idxOf_filter {l : List Int} {q : Int → Bool} (h : q id = true) :
    (l.filter q).idxOf id = ((l.take (l.idxOf id)).filter q).length := by
  induction l with
  | nil => rfl
  | cons x rest ih =>
      by_cases hx : x = id
      · subst hx
        simp [h]
      · rw [List.idxOf_cons_ne _ hx, List.take_succ_cons]
        by_cases hq : q x = true
        · rw [List.filter_cons_of_pos hq, List.filter_cons_of_pos hq, List.idxOf_cons_ne _ hx, ih,
            List.length_cons]
        · rw [List.filter_cons_of_neg hq, List.filter_cons_of_neg hq, ih]

/-- Where the common elements keep their order, a place shrinks only if one before it is gone. -/
theorem exists_gone_of_idxOf_lt {a b : List Int} (ha : id ∈ a) (hb : id ∈ b)
    (horder : a.filter (· ∈ b) = b.filter (· ∈ a)) (hlt : b.idxOf id < a.idxOf id) :
    ∃ gone ∈ a.take (a.idxOf id), gone ∉ b := by
  by_contra hstay
  have hall : ∀ x ∈ a.take (a.idxOf id), x ∈ b := by
    intro x hx
    by_contra hgone
    exact hstay ⟨x, hx, hgone⟩
  have hkept : (a.take (a.idxOf id)).filter (· ∈ b) = a.take (a.idxOf id) := by
    rw [List.filter_eq_self]
    intro x hx
    exact decide_eq_true (hall x hx)
  have hsame : a.idxOf id ≤ b.idxOf id := by
    calc
      a.idxOf id = ((a.take (a.idxOf id)).filter (· ∈ b)).length := by
        rw [hkept, List.length_take, Nat.min_eq_left List.idxOf_le_length]
      _ = (a.filter (· ∈ b)).idxOf id := (idxOf_filter (decide_eq_true hb)).symm
      _ = ((b.take (b.idxOf id)).filter (· ∈ a)).length := by
        rw [horder, idxOf_filter (decide_eq_true ha)]
      _ ≤ (b.take (b.idxOf id)).length := List.length_filter_le _ _
      _ ≤ b.idxOf id := List.length_take_le _ _
  omega

/-- A page holds the registrations whose places it covers. -/
theorem mem_numbers_pageOf {runners : List Runner} (hmem : id ∈ numbers runners)
    (hle : size * (number - 1) ≤ place runners id)
    (hlt : place runners id < size * (number - 1) + size) :
    id ∈ numbers (pageOf size runners number).runners := by
  have hplace : (numbers runners)[place runners id]? = some id := by
    rw [place, List.getElem?_eq_getElem (List.idxOf_lt_length_of_mem hmem), List.getElem_idxOf]
  have hpage : (numbers (pageOf size runners number).runners)[
      place runners id - size * (number - 1)]? = some id := by
    rw [numbers, pageOf, List.map_take, List.map_drop, List.getElem?_take_of_lt (by omega),
      List.getElem?_drop, Nat.add_sub_cancel' hle]
    exact hplace
  exact List.mem_of_getElem? hpage

/-- The page before the place of a registration is full and does not complete the listing. -/
theorem receive_pageOf_of_le {runners : List Runner} {listing : GitHub.Listing} (hsize : 1 ≤ size)
    (hmem : id ∈ numbers runners) (hreceived : listing.received.length = size * (number - 1))
    (hle : size * (number - 1) + size ≤ place runners id) :
    ∃ next, listing.receive (pageOf size runners number) = .inl next ∧
      next.received.length = size * (number - 1) + size := by
  have hplace : place runners id < runners.length := by
    rw [place, ← List.length_map (f := Runner.id)]
    exact List.idxOf_lt_length_of_mem hmem
  have hlength : (pageOf size runners number).runners.length = size := by
    rw [pageOf, List.length_take, List.length_drop]
    omega
  have hsome : (pageOf size runners number).runners ≠ [] := by
    intro hnil
    rw [hnil, List.length_nil] at hlength
    omega
  have htotal : (pageOf size runners number).totalCount = runners.length := rfl
  refine ⟨_, GitHub.Listing.receive_eq_inl hsome ?_, ?_⟩
  · rw [List.length_append, hlength, hreceived, htotal]
    omega
  · rw [List.length_append, hlength, hreceived]

/-- From any page on, a registration that has not been passed is listed or slides back. -/
theorem found_or_slidBack (hsize : 1 ≤ size) (history : History registered) (later : Nat)
    {listing : GitHub.Listing} (hfirst : 1 ≤ number)
    (hgathers : listing.Gathers
      ((List.range' number later).map fun k => pageOf size (registered k) k) runners)
    (hreceived : listing.received.length = size * (number - 1))
    (hplace : size * (number - 1) ≤ place (registered number) id)
    (hmem : ∀ k, number ≤ k → k < number + later → id ∈ numbers (registered k)) :
    id ∈ numbers runners ∨ SlidBack size registered id (number + later - 1) := by
  induction later generalizing number listing with
  | zero => cases hgathers
  | succ later ih =>
      have hhere := hmem number (Nat.le_refl _) (by omega)
      by_cases hpage : place (registered number) id < size * (number - 1) + size
      · -- it is on the page that comes next
        refine .inl ?_
        have hfound := mem_numbers_pageOf hhere hplace hpage
        rw [hgathers.runners_eq, List.range'_succ, List.map_cons, List.flatMap_cons, numbers,
          List.map_append, List.map_append]
        exact List.mem_append_right _ (List.mem_append_left _ hfound)
      · obtain ⟨next, hnext, hlength⟩ :=
          receive_pageOf_of_le hsize hhere hreceived (Nat.not_lt.1 hpage)
        have hedge : size * (number - 1) + size = size * (number + 1 - 1) := by
          obtain ⟨k, rfl⟩ := Nat.exists_eq_add_of_le' hfirst
          rw [Nat.add_sub_cancel, Nat.add_sub_cancel, Nat.mul_succ]
        rw [hedge] at hpage hlength
        rw [List.range'_succ, List.map_cons] at hgathers
        generalize hpages : (List.range' (number + 1) later).map
          (fun k => pageOf size (registered k) k) = pages at hgathers
        cases hgathers with
        | last hlast => cases hlast.symm.trans hnext
        | more hmore hrest =>
            cases hmore.symm.trans hnext
            have hlater : 1 ≤ later := by
              obtain ⟨_, _, rfl⟩ := hrest.exists_cons
              have hcount := congrArg List.length hpages
              rw [List.length_map, List.length_range', List.length_cons] at hcount
              omega
            by_cases hslid : place (registered (number + 1)) id < size * (number + 1 - 1)
            · have hthere := hmem (number + 1) (by omega) (by omega)
              refine .inr ⟨number, hfirst, by omega, Nat.not_lt.1 hpage, hslid, ?_⟩
              apply exists_gone_of_idxOf_lt hhere hthere (history.order number)
              exact Nat.lt_of_lt_of_le hslid (Nat.not_lt.1 hpage)
            · subst hpages
              have hall := ih (Nat.le_add_left 1 number) hrest hlength (Nat.not_lt.1 hslid)
                (fun k hle hlt => hmem k (by omega) (by omega))
              rwa [show number + 1 + later - 1 = number + (later + 1) - 1 by omega] at hall

/-- An entry among the runners of a listing is on one of its pages. -/
theorem mem_registered_of_mem_pagesOf {count : Nat} {entry : Runner}
    (h : entry ∈ (pagesOf size registered count).flatMap GitHub.RunnerPage.runners) :
    ∃ k, 1 ≤ k ∧ k ≤ count ∧ entry ∈ registered k := by
  obtain ⟨page, hpage, hentry⟩ := List.mem_flatMap.1 h
  obtain ⟨k, hk, rfl⟩ := List.mem_map.1 hpage
  rw [List.mem_range'_1] at hk
  exact ⟨k, hk.1, by omega, List.mem_of_mem_drop (List.mem_of_mem_take hentry)⟩

/-- The first replies are those that have been met. -/
theorem Meets.take {trace : List Exchanged} {replies : List Reply} (h : Meets trace replies) :
    Meets trace (replies.take trace.length) := by
  intro index x hx
  rw [List.getElem?_take_of_lt (List.getElem?_eq_some_iff.1 hx).1]
  exact h index x hx

/-- An unregistration that finds no entry ends with the listing. -/
theorem Unregisters.eq_notFound {scope : Scope} {runner : String} {rest : List Answered}
    {outcome : Except GitHub.Error Unregistration}
    (h : Unregisters scope runner (⟨.listRunners scope, .ok runners⟩ :: rest) outcome)
    (hmissing : runners.find? (Runner.registers runner) = none) :
    rest = [] ∧ outcome = .ok .notFound := by
  cases h with
  | absent _ => exact ⟨rfl, rfl⟩
  | removed hfind => cases hmissing.symm.trans hfind
  | refused hfind _ => cases hmissing.symm.trans hfind

/-- A listing that has been served page by page misses only what has slid back. -/
theorem Exchange.Lists.found_or_slidBack {conn : Connection} {scope : Scope}
    {trace : List Exchanged} {replies : List Reply}
    (hlists : Exchange.Lists conn scope {} trace (.ok runners)) (hmeets : Meets trace replies)
    (hsize : 1 ≤ size) (history : History registered)
    (hserves : Serves conn.now size registered (replies.take trace.length))
    (hmem : ∀ k, 1 ≤ k → k ≤ trace.length → id ∈ numbers (registered k)) :
    id ∈ numbers runners ∨ SlidBack size registered id trace.length := by
  have hgathers := hserves.gathers hmeets.take hlists
  have hfound := RunnerRelease.found_or_slidBack hsize history trace.length
    (Nat.le_refl 1) hgathers (by simp) (by simp) (fun k hle hlt => hmem k hle (by omega))
  rwa [Nat.add_sub_cancel_left] at hfound

/-- A runner that is registered all the time is not found only if it has slid back. -/
theorem Unregisters.slidBack {conn : Connection} {scope : Scope} {runner : String}
    {answers : List Answered} {trace : List Exchanged} {replies : List Reply}
    (h : Unregisters scope runner answers (.ok .notFound)) (hcarries : Carries conn answers trace)
    (hmeets : Meets trace replies) (hsize : 1 ≤ size) (history : History registered)
    (hserves : Serves conn.now size registered (replies.take trace.length)) (hid : id ≠ 0)
    (hmem : ∀ k, 1 ≤ k → k ≤ trace.length →
      ∃ entry ∈ registered k, entry.name = runner ∧ entry.id = id) :
    SlidBack size registered id trace.length := by
  cases h with
  | @absent runners hfind =>
      have hlists := hcarries.completes.lists_of_start
      have hrunners := (hserves.gathers hmeets.take hlists).runners_eq
      refine (hlists.found_or_slidBack hmeets hsize history hserves ?_).resolve_left ?_
      · intro k hfirst hle
        obtain ⟨entry, hentry, -, rfl⟩ := hmem k hfirst hle
        exact List.mem_map_of_mem hentry
      · intro hfound
        obtain ⟨entry, hentry, rfl⟩ := List.mem_map.1 hfound
        obtain ⟨k, hfirst, hle, hthere⟩ := mem_registered_of_mem_pagesOf (hrunners ▸ hentry)
        obtain ⟨own, hown, hname, hsame⟩ := hmem k hfirst hle
        -- no other entry of that list has the number
        obtain rfl := List.inj_on_of_nodup_map (history.nodup k) hown hthere hsame
        exact not_registered_of_find?_eq_none hfind own hentry ⟨hname, hid⟩

end

/--
While registrations come and go between the requests of a listing, every one that is there at
each of them is listed, unless it slides back; and only then can an unregistration come to the
end that a runner is not found which is registered all the time.
-/
theorem staying_runner_found (conn : Connection) (scope : Scope) {registered : Nat → List Runner}
    (history : History registered) (replies : List Reply) (id : Int) :
    (let run := Session.run conn (ask (.listRunners scope)) replies
      let requests := (Event.requests run.events).length
      Serves conn.now GitHub.runnersPerPage registered (replies.take requests) →
      (∀ k, 1 ≤ k → k ≤ requests → id ∈ numbers (registered k)) →
      ∀ runners, run.result = .ok runners →
        id ∈ numbers runners ∨ SlidBack GitHub.runnersPerPage registered id requests) ∧
    (∀ runner, id ≠ 0 →
      let run := Session.run conn (unregister scope runner) replies
      let requests := (Event.requests run.events).length
      Serves conn.now GitHub.runnersPerPage registered (replies.take requests) →
      (∀ k, 1 ≤ k → k ≤ requests → ∃ entry ∈ registered k, entry.name = runner ∧ entry.id = id) →
      run.result = .ok .notFound → SlidBack GitHub.runnersPerPage registered id requests) := by
  have hsize : 1 ≤ GitHub.runnersPerPage := by decide
  constructor
  · intro run requests
    rw [show requests = _ from Session.length_requests_run conn (ask (.listRunners scope)) replies]
    intro hserves hmem runners hresult
    have hlists := (Session.completes_run_ask conn (.listRunners scope) replies).lists_of_start
    change Exchange.Lists conn scope {} _ run.result at hlists
    rw [hresult] at hlists
    exact hlists.found_or_slidBack (Session.meets_trace conn _ replies) hsize history hserves hmem
  · intro runner hid run requests
    rw [show requests = _ from Session.length_requests_run conn (unregister scope runner) replies]
    intro hserves hmem hresult
    obtain ⟨answers, hyields, hcarries⟩ :=
      Session.accounts_run conn (unregister scope runner) replies
    have hunregisters := unregisters_of_yields hyields
    change Unregisters scope runner answers run.result at hunregisters
    rw [hresult] at hunregisters
    exact hunregisters.slidBack hcarries (Session.meets_trace conn _ replies) hsize history hserves
      hid hmem

namespace Slide

/-!
A hundred and one registrations, the first of which leaves after the first page has been received:
the last one is then on that page, and the second page is empty.
-/

def connection : Connection where
  github := { baseUrl := "http://h", token := "t", userAgent := "a" }
  kubernetes := { defaultNamespace := "default" }
  now := 0

def scope : Scope := .organization "acme"

def nameChars (id : Nat) : List Char := 'w' :: Nat.toDigits 10 id

def name (id : Nat) : String := String.ofList (nameChars id)

def runner (id : Nat) : Runner := ⟨id, name id, false, ""⟩

def registered : Nat → List Runner
  | 0 | 1 => (List.range' 1 101).map runner
  | _ => (List.range' 2 100).map runner

def listed : List Runner := (List.range' 1 100).map runner

/-- The body of a page as it is sent. -/
def bodyChars (total : Nat) (ids : List Nat) : List Char :=
  let entries := ids.map fun id => "\x7b\"id\":".toList ++ Nat.toDigits 10 id ++
    ",\"name\":\"".toList ++ nameChars id ++ "\"\x7d".toList
  "\x7b\"total_count\":".toList ++ Nat.toDigits 10 total ++ ",\"runners\":[".toList ++
    (entries.intersperse [',']).flatten ++ "]\x7d".toList

def reply (total : Nat) (ids : List Nat) : Reply :=
  some { status := 200, body := Text.asciiBytes (bodyChars total ids) }

def replies : List Reply := [reply 101 (List.range' 1 100), reply 100 []]

theorem numbers_map_runner (ids : List Nat) : numbers (ids.map runner) = ids.map Int.ofNat :=
  List.map_map

theorem nodup_numbers {ids : List Nat} (h : ids.Nodup) : (numbers (ids.map runner)).Nodup := by
  rw [numbers_map_runner]
  exact h.map fun _ _ => Int.ofNat.inj

theorem history : History registered where
  nodup
    | 0 | 1 | _ + 2 => nodup_numbers List.nodup_range'
  order
    | 0 => rfl
    | 1 => by decide +kernel
    | _ + 2 => rfl

theorem stays : ∀ k, ∃ entry ∈ registered k, entry.name = name 101 ∧ entry.id = 101
  | 0 | 1 | _ + 2 => ⟨runner 101, List.mem_map_of_mem (by simp), rfl, rfl⟩

theorem serves : Serves connection.now GitHub.runnersPerPage registered replies := by
  intro index answer hanswer
  match index with
  | 0 =>
      cases hanswer
      exact ⟨_, rfl, GitHub.readPage_of_charsPage? (by decide +kernel) (by decide +kernel)⟩
  | 1 =>
      cases hanswer
      exact ⟨_, rfl, GitHub.readPage_of_charsPage? (by decide +kernel) (by decide +kernel)⟩
  | index + 2 => cases hanswer

theorem gathers :
    GitHub.Listing.Gathers {} (pagesOf GitHub.runnersPerPage registered 2) listed := by
  have hfirst : GitHub.Listing.receive {} (pageOf GitHub.runnersPerPage (registered 1) 1) =
      .inl ⟨2, listed⟩ :=
    GitHub.Listing.receive_eq_inl (by simp [pageOf, registered, GitHub.runnersPerPage])
      (by simp [pageOf, registered, GitHub.runnersPerPage])
  have hsecond : GitHub.Listing.receive ⟨2, listed⟩
      (pageOf GitHub.runnersPerPage (registered 2) 2) = .inr listed := by
    have hempty : (pageOf GitHub.runnersPerPage (registered 2) 2).runners = [] := by
      simp [pageOf, registered, GitHub.runnersPerPage]
    rw [GitHub.Listing.receive_eq_inr (.inl hempty), hempty, List.append_nil]
  exact .more hfirst (.last hsecond)

theorem missing : listed.find? (Runner.registers (name 101)) = none := by
  have hother : ∀ id ∈ List.range' 1 100, nameChars id ≠ nameChars 101 := by decide +kernel
  rw [List.find?_eq_none]
  intro entry hentry
  obtain ⟨id, hid, rfl⟩ := List.mem_map.1 hentry
  have hname : name id ≠ name 101 := fun heq => hother id hid (String.ofList_injective heq)
  simp [Runner.registers, runner, hname]

theorem not_listed : 101 ∉ numbers listed := by
  rw [listed, numbers_map_runner]
  intro hmem
  obtain ⟨id, hid, hsame⟩ := List.mem_map.1 hmem
  rw [List.mem_range'_1, Int.ofNat.inj hsame] at hid
  exact absurd hid.2 (by decide)

theorem sendable : ∀ number ∈ List.range' 1 2,
    (connection.github.pageRequest scope number).toOption.isSome := by decide +kernel

/-- A listing of what is registered misses the last one, after two requests. -/
theorem lists {trace : List Exchanged} {answer : Except GitHub.Error (List Runner)}
    (hlists : Exchange.Lists connection scope {} trace answer) (hmeets : Meets trace replies) :
    answer = .ok listed ∧ trace.length = 2 := by
  obtain ⟨hanswer, hrequests⟩ := serves.lists hmeets (Nat.le_refl 2) gathers sendable hlists
  refine ⟨hanswer, ?_⟩
  have hlength := congrArg List.length hrequests
  rwa [List.length_map, List.length_map, List.length_range'] at hlength

theorem run_list :
    let run := Session.run connection (ask (.listRunners scope)) replies
    run.result = .ok listed ∧ (Event.requests run.events).length = 2 := by
  intro run
  rw [Session.length_requests_run]
  exact lists (Session.completes_run_ask connection (.listRunners scope) replies).lists_of_start
    (Session.meets_trace connection _ replies)

theorem run_unregister :
    let run := Session.run connection (unregister scope (name 101)) replies
    run.result = .ok .notFound ∧ (Event.requests run.events).length = 2 := by
  intro run
  rw [Session.length_requests_run]
  obtain ⟨answers, hyields, hcarries⟩ :=
    Session.accounts_run connection (unregister scope (name 101)) replies
  have hmeets := Session.meets_trace connection (unregister scope (name 101)) replies
  generalize Session.trace connection (unregister scope (name 101)) replies = trace at *
  have hunregisters := unregisters_of_yields hyields
  obtain ⟨listing, rest, rfl, -⟩ := hunregisters.exists_listing
  obtain ⟨first, later, rfl, hfirst, hlater⟩ := hcarries.exists_append (a := [⟨_, listing⟩])
  obtain ⟨rfl, hlength⟩ := lists hfirst.completes.lists_of_start hmeets.of_append
  obtain ⟨rfl, hresult⟩ := hunregisters.eq_notFound missing
  cases hlater
  exact ⟨hresult, (congrArg List.length (List.append_nil first)).trans hlength⟩

end Slide

/-- A registration that stays is missed and not found, although all pages are served. -/
theorem staying_runner_missed :
    History Slide.registered ∧
      (∀ k, ∃ entry ∈ Slide.registered k, entry.name = Slide.name 101 ∧ entry.id = 101) ∧
      Serves Slide.connection.now GitHub.runnersPerPage Slide.registered Slide.replies ∧
      (∃ runners, 101 ∉ numbers runners ∧
        (Session.run Slide.connection (ask (.listRunners Slide.scope)) Slide.replies).result =
          .ok runners) ∧
      (Session.run Slide.connection (unregister Slide.scope (Slide.name 101))
        Slide.replies).result = .ok .notFound :=
  ⟨Slide.history, Slide.stays, Slide.serves,
    ⟨Slide.listed, Slide.not_listed, Slide.run_list.1⟩, Slide.run_unregister.1⟩

/-- It is missed because it has slid back. -/
theorem staying_runner_found_or_slidBack :
    (101 ∈ numbers Slide.listed ∨ SlidBack GitHub.runnersPerPage Slide.registered 101 2) ∧
      SlidBack GitHub.runnersPerPage Slide.registered 101 2 := by
  obtain ⟨hlist, hunregister⟩ :=
    staying_runner_found Slide.connection Slide.scope Slide.history Slide.replies 101
  obtain ⟨hlisted, hlistCount⟩ := Slide.run_list
  obtain ⟨hresult, hcount⟩ := Slide.run_unregister
  have hslid := hunregister (Slide.name 101) (by decide)
  dsimp only at hlist hslid
  rw [hlistCount] at hlist
  rw [hcount] at hslid
  refine ⟨hlist Slide.serves (fun k _ _ => ?_) Slide.listed hlisted,
    hslid Slide.serves (fun k _ _ => Slide.stays k) hresult⟩
  obtain ⟨entry, hentry, -, hid⟩ := Slide.stays k
  exact hid ▸ List.mem_map_of_mem hentry

end RunnerRelease
