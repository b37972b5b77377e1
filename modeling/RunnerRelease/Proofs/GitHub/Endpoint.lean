import RunnerRelease.Proofs.Registry.Removal

/-!
# The endpoint of a scope

Registrations are listed at the endpoint of their scope and removed below it, as long as the
names of the scope stand for themselves as segments of an address. A name that does not, such as
one with a number sign, leads elsewhere.

## Implementation notes

The names are part of the address as they are, and nothing keeps a scope from having such a name.
What is said of requests is thus said under the condition that the names stand for themselves, or
as an equivalence with it. It holds of all runs of all procedures, since a request is put together
from its call alone.
-/

namespace RunnerRelease

open Http Text

/-- The scope that a call to the runner service is about. -/
def Call.scope? : Call → Option Scope
  | .listRunners scope | .removeRunner scope _ => some scope
  | _ => none

/-- No two scopes have endpoints of which one is the other or below it. -/
theorem Scope.eq_of_runnersPath_append {scope other : Scope} {below beneath : List String}
    (h : scope.runnersPath ++ below = other.runnersPath ++ beneath) : scope = other := by
  cases scope <;> cases other <;> simp_all [runnersPath, kind, names]

/-- The exchange is one of some run. -/
def Connection.Makes (conn : Connection) (x : Exchanged) : Prop :=
  ∃ (α : Type) (p : Procedure α) (replies : List Reply), x ∈ Session.trace conn p replies

variable {conn : Connection} {x : Exchanged} {scope : Scope} {id : Int}

theorem Connection.Makes.exists_completes (h : conn.Makes x) {c : Call} (hc : x.call = c) :
    ∃ answer xs, x ∈ xs ∧ (Exchange.start conn c).2.Completes conn xs answer := by
  obtain ⟨α, p, replies, hx⟩ := h
  obtain ⟨answers, -, hcarries⟩ := Session.accounts_run conn p replies
  exact hcarries.exists_completes hx hc

theorem Connection.Makes.exists_pageRequest (h : conn.Makes x) (hc : x.call = .listRunners scope) :
    ∃ page, conn.github.pageRequest scope page = .ok x.request := by
  obtain ⟨answer, xs, hx, hcompletes⟩ := h.exists_completes hc
  exact hcompletes.lists_of_start.exists_pageRequest x hx

theorem Connection.Makes.removeRequest_eq (h : conn.Makes x)
    (hc : x.call = .removeRunner scope id) :
    conn.github.removeRequest scope id = .ok x.request := by
  obtain ⟨answer, xs, hx, hcompletes⟩ := h.exists_completes hc
  have hcarries : Carries conn [⟨.removeRunner scope id, answer⟩] xs := by
    simpa using Carries.cons hcompletes .nil
  rcases hcarries.eq_nil_or_removal with ⟨rfl, -⟩ | ⟨request, reply, hrequest, rfl⟩
  · cases hx
  · rw [List.mem_singleton] at hx
    rw [hx]
    exact hrequest

/-- The request is one at the endpoint of its scope or below it. -/
theorem Connection.Makes.exists_segments_eq (hbase : Url.IsOrigin conn.github.baseUrl)
    (h : conn.Makes x) (hscope : x.call.scope? = some scope) (hnames : scope.NamesSegments) :
    ∃ below, Url.segments x.request.target = (scope.runnersPath ++ below).map toBytes := by
  cases hcall : x.call with
  | listRunners found =>
      obtain ⟨page, hrequest⟩ := h.exists_pageRequest hcall
      rw [hcall] at hscope
      obtain rfl := Option.some.inj hscope
      refine ⟨[], ?_⟩
      rw [List.append_nil]
      exact (GitHub.Client.segments_of_pageRequest hbase hrequest).2 hnames
  | removeRunner found id =>
      have hrequest := h.removeRequest_eq hcall
      rw [hcall] at hscope
      obtain rfl := Option.some.inj hscope
      exact ⟨[toString id], (GitHub.Client.segments_of_removeRequest hbase hrequest).2 hnames⟩
  | _ =>
      rw [hcall] at hscope
      cases hscope

/--
If the address of the service is just a scheme and a host, a request for a page is for the
endpoint of its scope, and one for a removal for a registration below it, if and only if each
name of the scope stands for itself as a segment of an address. Different scopes with such names
never have requests for the same endpoint.
-/
theorem requests_stay_on_endpoint (conn : Connection)
    (hbase : Url.IsOrigin conn.github.baseUrl) :
    (∀ x, conn.Makes x → ∀ scope, x.call = .listRunners scope → x.request.method = "GET" ∧
      (Url.segments x.request.target = scope.runnersPath.map toBytes ↔ scope.NamesSegments)) ∧
    (∀ x, conn.Makes x → ∀ scope id, x.call = .removeRunner scope id →
      x.request.method = "DELETE" ∧
      (Url.segments x.request.target = (scope.runnersPath ++ [toString id]).map toBytes ↔
        scope.NamesSegments)) ∧
    ∀ x, conn.Makes x → ∀ y, conn.Makes y → ∀ scope other,
      x.call.scope? = some scope → y.call.scope? = some other →
      scope.NamesSegments → other.NamesSegments →
      Url.segments x.request.target = Url.segments y.request.target → scope = other := by
  refine ⟨?_, ?_, ?_⟩
  · intro x hx scope hcall
    obtain ⟨page, hrequest⟩ := hx.exists_pageRequest hcall
    exact ⟨GitHub.Client.method_of_pageRequest hrequest,
      GitHub.Client.segments_of_pageRequest hbase hrequest⟩
  · intro x hx scope id hcall
    have hrequest := hx.removeRequest_eq hcall
    exact ⟨GitHub.Client.method_of_removeRequest hrequest,
      GitHub.Client.segments_of_removeRequest hbase hrequest⟩
  · intro x hx y hy scope other hscope hother hnames hothers hsame
    obtain ⟨below, hbelow⟩ := hx.exists_segments_eq hbase hscope hnames
    obtain ⟨beneath, hbeneath⟩ := hy.exists_segments_eq hbase hother hothers
    rw [hbelow, hbeneath] at hsame
    exact Scope.eq_of_runnersPath_append (List.map_injective_iff.2 toBytes_injective hsame)

namespace Acme

/-! Runs for the two calls about an organization, at a service with a short address. -/

def connection : Connection where
  github := { baseUrl := "http://h", token := "t", userAgent := "a" }
  kubernetes := { defaultNamespace := "default" }
  now := 0

def listing (name : String) : List Exchanged :=
  Session.trace connection (Procedure.ask (.listRunners (.organization name))) []

def removal (name : String) : List Exchanged :=
  Session.trace connection (Procedure.ask (.removeRunner (.organization name) 7)) []

theorem isOrigin : Url.IsOrigin connection.github.baseUrl :=
  ⟨"http".toList, "h".toList, rfl, List.all_iff_forall_prop.1 (by decide), by decide,
    List.all_iff_forall_prop.1 (by decide)⟩

end Acme

/-- A registration of an organization is deleted below the endpoint of that organization. -/
theorem requests_stay_on_endpoint_of_plain_name :
    ∃ x ∈ Acme.removal "acme", x.request.method = "DELETE" ∧
      Url.segments x.request.target =
        ["orgs", "acme", "actions", "runners", "7"].map toBytes := by
  have hcalls : (Acme.removal "acme").map Exchanged.call =
      [.removeRunner (.organization "acme") 7] := by decide +kernel
  obtain ⟨x, hx, hcall⟩ := List.exists_of_mem_map (hcalls ▸ List.mem_cons_self)
  have hnames : (Scope.organization "acme").NamesSegments := by
    intro name hname
    obtain rfl := List.mem_singleton.1 hname
    exact Url.isSegment_of_all (by decide)
  obtain ⟨hmethod, hsegments⟩ := (requests_stay_on_endpoint Acme.connection Acme.isOrigin).2.1 x
    ⟨_, _, _, hx⟩ _ _ hcall
  exact ⟨x, hx, hmethod, hsegments.2 hnames⟩

/--
A number sign in the name of an organization ends the path: the runners of two organizations are
asked for at one address, which is neither's endpoint, and the removal of a runner deletes there.
-/
theorem number_sign_ends_path :
    Scope.ofParts none (some "acme#") none = .ok (.organization "acme#") ∧
    Scope.ofParts none (some "acme#b") none = .ok (.organization "acme#b") ∧
    ((Acme.listing "acme#").map fun x => Url.segments x.request.target) =
      [["orgs", "acme"].map toBytes] ∧
    ((Acme.listing "acme#b").map fun x => Url.segments x.request.target) =
      [["orgs", "acme"].map toBytes] ∧
    ((Acme.removal "acme#").map fun x => (x.request.method, x.request.target)) =
      [("DELETE", "/orgs/acme")] := by
  decide +kernel

end RunnerRelease
