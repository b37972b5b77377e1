import RunnerRelease.GitHub.Client
import RunnerRelease.Proofs.Http.Target

/-!
# Requests to the runner service

What a request for a page and one for a removal are, field by field, and where they are sent.

## Implementation notes

The parameters of a page are added to the target of the address at which a scope is listed. What
stands before them is thus the same for all pages: `ListsAt` says what it is, and `pageAt` what
becomes of it with the number of a page. The names of a scope are part of the address as they
are, so that the segments of its path are told only of names that stand for themselves.
-/

namespace RunnerRelease

open Http Text

namespace Scope

/-- The first segment of the endpoint, which tells what kind of scope it is. -/
def kind : Scope → String
  | .enterprise _ => "enterprises"
  | .organization _ => "orgs"
  | .repository _ _ => "repos"

/-- The texts that name the scope. -/
def names : Scope → List String
  | .enterprise slug => [slug]
  | .organization name => [name]
  | .repository owner name => [owner, name]

/-- The segments of the endpoint at which the registrations of the scope are listed. -/
def runnersPath (scope : Scope) : List String :=
  scope.kind :: scope.names ++ ["actions", "runners"]

/-- Each name of the scope stands for itself as a segment of an address. -/
def NamesSegments (scope : Scope) : Prop := ∀ name ∈ scope.names, Url.IsSegment name.toList

end Scope

variable {part : List Char} {scope : Scope} {id : Int}

/-- A text without dots and percent signs stands for itself if its characters do. -/
theorem Http.Url.isSegment_of_all
    (h : part.all (fun c => Url.isPlain c && c != '%' && c != '.') = true) :
    Url.IsSegment part := by
  have hchars : ∀ c ∈ part, Url.isPlain c ∧ c ≠ '%' ∧ c ≠ '.' := by
    simpa [List.all_eq_true, and_assoc] using h
  refine ⟨fun c hc => (hchars c hc).1, ?_, ?_, ?_⟩
  · rintro rest hrest ⟨a, b, more, rfl, -⟩
    exact (hchars '%' (hrest.subset List.mem_cons_self)).2.1 rfl
  · rintro rfl
    cases h
  · rintro rfl
    cases h

theorem Http.Url.isSegment_toString (id : Int) : Url.IsSegment (toString id).toList := by
  have hnumber : Url.numberChars.all (fun c => Url.isPlain c && c != '%' && c != '.') = true := by
    decide
  apply Url.isSegment_of_all
  rw [List.all_eq_true, Int.toString_eq_repr]
  intro c hc
  exact List.all_eq_true.1 hnumber c (Url.mem_numberChars_of_mem_repr id c hc)

/-- What the endpoint adds to the names of a scope stands for itself. -/
theorem forall_isSegment_runnersPath_iff :
    (∀ text ∈ scope.runnersPath, Url.IsSegment text.toList) ↔ scope.NamesSegments := by
  have hfixed : ∀ text ∈ ["enterprises", "orgs", "repos", "actions", "runners"],
      Url.IsSegment text.toList := by
    intro text htext
    apply Url.isSegment_of_all
    revert text
    decide
  constructor
  · intro h name hname
    apply h
    simp [Scope.runnersPath, hname]
  · intro h text htext
    rw [Scope.runnersPath, List.mem_append, List.mem_cons] at htext
    rcases htext with (rfl | hname) | hend
    · apply hfixed
      cases scope <;> simp [Scope.kind]
    · exact h text hname
    · apply hfixed
      revert text
      decide

namespace Http.Url

theorem path_addQuery (url : Url) (parameters : List (String × String)) :
    (url.addQuery parameters).path = url.path := by
  rw [addQuery]
  split <;> rfl

/-- The target of an address up to the parameters that are added to its query. -/
def beforeParameters (url : Url) : String :=
  match url.query with
  | none | some "" => url.pathText ++ "?"
  | some query => url.pathText ++ "?" ++ query ++ "&"

theorem target_of_query {url : Url} {query : String} (hquery : url.query = some query)
    (hne : query ≠ "") : url.target = url.pathText ++ "?" ++ query := by
  simp [target, hquery]

theorem beforeParameters_of_query {url : Url} {query : String} (hquery : url.query = some query)
    (hne : query ≠ "") : url.beforeParameters = url.pathText ++ "?" ++ query ++ "&" := by
  simp [beforeParameters, hquery]

/-- Parameters are added at the end of a target. -/
theorem target_addQuery (url : Url) {parameters : List (String × String)} {added : String}
    (hadded : "&".intercalate (parameters.map fun p => p.1 ++ "=" ++ p.2) = added)
    (hne : added ≠ "") : (url.addQuery parameters).target = url.beforeParameters ++ added := by
  rw [addQuery, hadded]
  split
  · rename_i hquery
    rw [target_of_query rfl hne, beforeParameters, hquery]
    rfl
  · rename_i hquery
    rw [target_of_query rfl hne, beforeParameters, hquery]
    rfl
  · rename_i query hsome hquery
    rw [target_of_query rfl (by simp [hne]), beforeParameters_of_query hquery hsome]
    simp only [pathText, String.append_assoc]

end Http.Url

namespace GitHub.Client

variable {client : Client} {number : Nat} {address : String} {request : Request}

/-- The header fields of every request. -/
def fields (client : Client) : List (String × String) := [
  ("accept", "application/vnd.github+json"),
  ("authorization", "Bearer " ++ client.token),
  ("user-agent", client.userAgent),
  ("x-github-api-version", "2022-11-28")]

/-- The request for the page with a number, where the registrations are listed at an address. -/
def pageAt (client : Client) (address : String) (number : Nat) : Request where
  method := "GET"
  target := address ++ "per_page=100&page=" ++ toString number
  headers := client.fields

/-- The registrations of a scope are listed at an address, to which parameters are added. -/
structure ListsAt (client : Client) (scope : Scope) (address : String) : Prop where
  /-- The address is that of the service with the path of the scope. -/
  read : ∃ url,
    Url.parse? (client.baseUrl ++ "/" ++ scope.apiPath ++ "/actions/runners") = some url ∧
      address = url.beforeParameters
  /-- Where the service is given by a scheme and a host, it is the endpoint of the scope. -/
  endpoint : Url.IsOrigin client.baseUrl → scope.NamesSegments → ∃ path,
    address = path ++ "?" ∧ '?' ∉ path.toList ∧
      Url.segments path = scope.runnersPath.map toBytes

/-- The request asks for the removal of the registration with a number. -/
structure AsksRemoval (client : Client) (scope : Scope) (id : Int) (request : Request) : Prop where
  /-- The address is that of the service with the path of the scope and the number. -/
  read : ∃ url,
    Url.parse? (client.baseUrl ++ "/" ++ scope.apiPath ++ "/actions/runners" ++ "/" ++
        toString id) = some url ∧
      request = { method := "DELETE", target := url.target, headers := client.fields }
  /-- Nothing follows the number. -/
  number : '#' ∉ client.baseUrl.toList → '#' ∉ scope.apiPath.toList →
    ∃ front, request.target = front ++ "/" ++ toString id
  /-- Where the service is given by a scheme and a host, it is below the endpoint of the scope. -/
  endpoint : Url.IsOrigin client.baseUrl → scope.NamesSegments →
    Url.segments request.target = (scope.runnersPath ++ [toString id]).map toBytes

/-- A request is for the target of its address, with the header fields of every request. -/
theorem request_eq {method : String} {url : Url} (h : client.request method url = .ok request) :
    request = { method, target := url.target, headers := client.fields } := by
  rw [Client.request] at h
  split at h
  · cases h
    rfl
  · cases h

theorem target_addQuery_page (url : Url) (number : Nat) :
    (url.addQuery [("per_page", toString runnersPerPage), ("page", toString number)]).target =
      url.beforeParameters ++ "per_page=100&page=" ++ toString number := by
  have hfixed : "per_page" ++ "=" ++ toString runnersPerPage ++ "&" ++ "page" ++ "=" =
      "per_page=100&page=" := by decide
  rw [String.append_assoc]
  apply Url.target_addQuery
  · simp only [List.map_cons, List.map_nil, String.intercalate_cons_cons,
      String.intercalate_singleton, ← String.append_assoc, hfixed]
  · intro hempty
    simpa using congrArg String.toList hempty

/-- The request for a page is for the target of an address with parameters added to it. -/
theorem exists_url_of_pageRequest (h : client.pageRequest scope number = .ok request) :
    ∃ url parameters, Url.parse? (client.runnersUrl scope) = some url ∧
      request =
        { method := "GET", target := (url.addQuery parameters).target, headers := client.fields } ∧
      request = client.pageAt url.beforeParameters number := by
  rw [pageRequest] at h
  split at h
  · cases h
  · rename_i url hurl
    obtain rfl := request_eq h
    refine ⟨url, _, hurl, rfl, ?_⟩
    rw [target_addQuery_page, pageAt]

theorem method_of_pageRequest (h : client.pageRequest scope number = .ok request) :
    request.method = "GET" := by
  obtain ⟨_, _, -, -, rfl⟩ := exists_url_of_pageRequest h
  rfl

/-- The request for a removal is for the target of an address that could be read. -/
theorem exists_url_of_removeRequest (h : client.removeRequest scope id = .ok request) :
    ∃ url, Url.parse? (client.runnersUrl scope ++ "/" ++ toString id) = some url ∧
      request = { method := "DELETE", target := url.target, headers := client.fields } := by
  rw [removeRequest] at h
  split at h
  · cases h
  · rename_i url hurl
    exact ⟨url, hurl, request_eq h⟩

theorem method_of_removeRequest (h : client.removeRequest scope id = .ok request) :
    request.method = "DELETE" := by
  obtain ⟨_, -, rfl⟩ := exists_url_of_removeRequest h
  rfl

/-- The target of the request for a removal ends in the number of the registration. -/
theorem exists_target_of_removeRequest (h : client.removeRequest scope id = .ok request)
    (hbase : '#' ∉ client.baseUrl.toList) (hscope : '#' ∉ scope.apiPath.toList) :
    ∃ front, request.target = front ++ "/" ++ toString id := by
  obtain ⟨url, hurl, rfl⟩ := exists_url_of_removeRequest h
  have hnumber := Url.mem_numberChars_of_mem_repr id
  have hend : 's' :: '/' :: id.repr.toList <:+
      (client.runnersUrl scope ++ "/" ++ toString id).toList := by
    refine ⟨client.baseUrl.toList ++ '/' :: scope.apiPath.toList ++ "/actions/runner".toList, ?_⟩
    simp [runnersUrl]
  have hhash : '#' ∉ (client.runnersUrl scope ++ "/" ++ toString id).toList := by
    have hid : '#' ∉ id.repr.toList := fun hmem => absurd (hnumber _ hmem) (by decide)
    simp [runnersUrl, hbase, hscope, hid]
  obtain ⟨front, hfront⟩ := Url.exists_target_eq hurl hnumber (Url.repr_toList_ne_nil id) hend hhash
  exact ⟨front, by rw [hfront, String.ofList_toList, Int.toString_eq_repr]⟩

theorem toList_runnersUrl (client : Client) (scope : Scope) :
    (client.runnersUrl scope).toList =
      client.baseUrl.toList ++ Url.slashed (scope.runnersPath.map String.toList) := by
  cases scope <;>
    simp [runnersUrl, Scope.apiPath, Scope.runnersPath, Scope.kind, Scope.names, Url.slashed]

/-- The last segment of the endpoint is made of visible characters. -/
theorem visible_of_mem_getLast?_runnersPath :
    ∀ text ∈ scope.runnersPath.getLast?, ∀ c ∈ text.toList, 0x20 < c.toNat := by
  intro text htext
  rw [Scope.runnersPath, List.getLast?_append] at htext
  obtain rfl : "runners" = text := Option.some.inj htext
  exact List.all_iff_forall_prop.1 (by decide)

/-- A page is asked for at the endpoint if and only if the names stand for themselves. -/
theorem segments_of_pageRequest (hbase : Url.IsOrigin client.baseUrl)
    (h : client.pageRequest scope number = .ok request) :
    Url.segments request.target = scope.runnersPath.map toBytes ↔ scope.NamesSegments := by
  obtain ⟨url, parameters, hurl, rfl, -⟩ := exists_url_of_pageRequest h
  rw [Url.segments_target_iff hbase hurl (toList_runnersUrl client scope)
    (by simp [Scope.runnersPath]) visible_of_mem_getLast?_runnersPath
    (Url.path_addQuery url parameters)]
  exact forall_isSegment_runnersPath_iff

/-- A removal is asked for below the endpoint if and only if the names stand for themselves. -/
theorem segments_of_removeRequest (hbase : Url.IsOrigin client.baseUrl)
    (h : client.removeRequest scope id = .ok request) :
    Url.segments request.target = (scope.runnersPath ++ [toString id]).map toBytes ↔
      scope.NamesSegments := by
  obtain ⟨url, hurl, rfl⟩ := exists_url_of_removeRequest h
  have hs : (client.runnersUrl scope ++ "/" ++ toString id).toList =
      client.baseUrl.toList ++
        Url.slashed ((scope.runnersPath ++ [toString id]).map String.toList) := by
    rw [String.toList_append, String.toList_append, toList_runnersUrl]
    simp [Url.slashed]
  have hlast : ∀ text ∈ (scope.runnersPath ++ [toString id]).getLast?,
      ∀ c ∈ text.toList, 0x20 < c.toNat := by
    intro text htext c hc
    obtain rfl : text = toString id := by simpa [eq_comm] using htext
    have hvisible : ∀ c ∈ Url.numberChars, 0x20 < c.toNat :=
      List.all_iff_forall_prop.1 (by decide)
    rw [Int.toString_eq_repr] at hc
    exact hvisible c (Url.mem_numberChars_of_mem_repr id c hc)
  rw [Url.segments_target_iff hbase hurl hs (by simp) hlast rfl, List.forall_mem_append,
    List.forall_mem_singleton, forall_isSegment_runnersPath_iff]
  exact and_iff_left (Url.isSegment_toString id)

/-- Where a page can be asked for, all pages are asked for at the address of the scope. -/
theorem exists_listsAt (hsend : (client.pageRequest scope number).toOption.isSome) :
    ∃ address, client.ListsAt scope address ∧
      ∀ page request, client.pageRequest scope page = .ok request →
        request = client.pageAt address page := by
  cases hrequest : client.pageRequest scope number with
  | error error =>
      rw [hrequest] at hsend
      cases hsend
  | ok request =>
      obtain ⟨url, -, hurl, -, -⟩ := exists_url_of_pageRequest hrequest
      refine ⟨url.beforeParameters, ⟨⟨url, hurl, rfl⟩, ?_⟩, ?_⟩
      · intro hbase hnames
        obtain ⟨hnone, hquestion, hsegments⟩ :=
          Url.path_of_isSegment hbase hurl (toList_runnersUrl client scope)
            (by simp [Scope.runnersPath]) visible_of_mem_getLast?_runnersPath
            (forall_isSegment_runnersPath_iff.2 hnames)
        exact ⟨url.pathText, by rw [Url.beforeParameters, hnone], hquestion, hsegments⟩
      · intro page found hfound
        obtain ⟨other, parameters, hother, -, hpage⟩ := exists_url_of_pageRequest hfound
        cases hurl.symm.trans hother
        exact hpage

/-- Requests that have been put together for pages are those at the address of the scope. -/
theorem eq_map_pageAt {numbers : List Nat} {requests : List Request}
    (hpage : ∀ page request, client.pageRequest scope page = .ok request →
      request = client.pageAt address page)
    (h : requests.map Except.ok = numbers.map (client.pageRequest scope)) :
    requests = numbers.map (client.pageAt address) := by
  induction numbers generalizing requests with
  | nil => exact List.map_eq_nil_iff.1 h
  | cons page numbers ih =>
      obtain ⟨request, rest, rfl, hrequest, hrest⟩ := List.map_eq_cons_iff.1 h
      rw [List.map_cons, hpage page request hrequest.symm, ih hrest]

/-- Requests that have been put together for pages are listed at an address. -/
theorem exists_listsAt_of_map_ok {numbers : List Nat} {requests : List Request}
    (hsend : (client.pageRequest scope number).toOption.isSome)
    (h : requests.map Except.ok = numbers.map (client.pageRequest scope)) :
    ∃ address, client.ListsAt scope address ∧ requests = numbers.map (client.pageAt address) := by
  obtain ⟨address, hlists, hpage⟩ := exists_listsAt hsend
  exact ⟨address, hlists, eq_map_pageAt hpage h⟩

theorem asksRemoval_of_removeRequest (h : client.removeRequest scope id = .ok request) :
    client.AsksRemoval scope id request where
  read := exists_url_of_removeRequest h
  number := exists_target_of_removeRequest h
  endpoint hbase hnames := (segments_of_removeRequest hbase h).2 hnames

end GitHub.Client

end RunnerRelease
