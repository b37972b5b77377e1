import RunnerRelease.Proofs.Cluster.Worker

/-!
# Releases are justified

A tick lets a pod go without asking the runner service when the pod has the completion
marker. Over a whole run this trust is justified: some tick has observed what warrants the
release before the marker was written.

## Implementation notes

The invariant speaks of the completion marker where ticks can find it: on the stored pod and
on the pods that are held. Versions play no part in it, so nothing is asked of the relation
by which they are assigned.
-/

namespace RunnerRelease

open Pod Http

variable {assigns : List String → String → Prop}

/-- Some tick has observed what warrants the release of its pod. -/
def Cluster.Warranted (s : Cluster) : Prop := ∃ worker ∈ s.workers, worker.Warranted

/-- Wherever the completion marker is found, some tick has had a warrant. -/
structure Justified (s : Cluster) : Prop where
  sound : ∀ worker ∈ s.workers, worker.Sound
  stored : (s.marker? completeMarker).isSome → s.Warranted
  held : ∀ worker ∈ s.workers, (worker.held.annotated completeMarker).isSome → s.Warranted

theorem justified_of_idle {s : Cluster} (hidle : s.workers = [])
    (hunmarked : s.marker? completeMarker = none) : Justified s where
  sound := by simp [hidle]
  stored := by simp [hunmarked]
  held := by simp [hidle]

/-- A warrant stays when a tick takes in a reply. -/
theorem exists_warranted_receive {before after : List Worker} {worker : Worker} (reply : Reply)
    (h : ∃ w ∈ before ++ worker :: after, w.Warranted) :
    ∃ w ∈ before ++ worker.receive reply :: after, w.Warranted := by
  obtain ⟨other, hmem, hwarranted⟩ := h
  rcases List.mem_append.1 hmem with hbefore | hrest
  · exact ⟨other, List.mem_append_left _ hbefore, hwarranted⟩
  · rcases List.mem_cons.1 hrest with rfl | hafter
    · exact ⟨other.receive reply, List.mem_append_right _ List.mem_cons_self,
        hwarranted.receive reply⟩
    · exact ⟨other, List.mem_append_right _ (List.mem_cons_of_mem _ hafter), hwarranted⟩

/-- A tick takes in a reply and goes on with the pod that it held, or with the one stored now. -/
theorem Justified.receive {s : Cluster} (h : Justified s) {before after : List Worker}
    {worker : Worker} (hworkers : s.workers = before ++ worker :: after) {reply : Reply}
    {stored : Json} {versions : List String}
    (hstored : (stored.at? (annotationPath completeMarker)).isSome →
      ∃ w ∈ before ++ worker.receive reply :: after, w.Warranted)
    (hheld : (worker.receive reply).held = worker.held ∨
      (worker.receive reply).held.ReadFrom stored) :
    Justified { stored, versions, workers := before ++ worker.receive reply :: after } := by
  obtain ⟨hsound, -, hmarked⟩ := h
  rw [Cluster.Warranted, hworkers] at hmarked
  rw [hworkers] at hsound
  have hothers : ∀ w ∈ before ++ worker :: after, (w.held.annotated completeMarker).isSome →
      ∃ w ∈ before ++ worker.receive reply :: after, w.Warranted := by
    intro w hmem hcomplete
    exact exists_warranted_receive reply (hmarked w hmem hcomplete)
  refine ⟨forall_mem_replace hsound ((hsound worker (by simp)).receive reply), hstored,
    forall_mem_replace hothers fun hcomplete => ?_⟩
  rcases hheld with hsame | hread
  · rw [hsame] at hcomplete
    exact hothers worker (by simp) hcomplete
  · rw [← hread.isSome_at?_annotation] at hcomplete
    exact hstored hcomplete

theorem Step.justified {s t : Cluster} {action : Action} (hstep : Step assigns s action t)
    (h : Justified s) : Justified t := by
  cases hstep with
  | @start job pod hread =>
      have hmore : s.Warranted →
          Cluster.Warranted { s with workers := .start job pod :: s.workers } := by
        rintro ⟨other, hmem, hwarranted⟩
        exact ⟨other, List.mem_cons_of_mem _ hmem, hwarranted⟩
      refine ⟨?_, fun hmarked => hmore (h.stored hmarked), ?_⟩
      · rw [List.forall_mem_cons]
        exact ⟨Worker.sound_start job pod, h.sound⟩
      · rw [List.forall_mem_cons]
        constructor
        · intro hmarked
          rw [Worker.held_start, ← hread.isSome_at?_annotation] at hmarked
          exact hmore (h.stored hmarked)
        · intro worker hmem hmarked
          exact hmore (h.held worker hmem hmarked)
  | write hmarkers _ _ =>
      refine ⟨h.sound, fun hmarked => ?_, h.held⟩
      rw [Cluster.marker?, hmarkers completeMarker (by simp [markerKeys])] at hmarked
      exact h.stored hmarked
  | @answer before after worker request reply hworkers hpending hkept =>
      have hworker : worker.Sound := h.sound worker (hworkers ▸ by simp)
      refine h.receive hworkers (fun hmarked => ?_)
        (.inl (hworker.held_receive_of_kept hpending hkept))
      have hwarranted := h.stored hmarked
      rw [Cluster.Warranted, hworkers] at hwarranted
      exact exists_warranted_receive reply hwarranted
  | @accept before after worker request patch stored version reply hworkers hpending hpatch _ _
      happlied hreply =>
      have hworker : worker.Sound := h.sound worker (hworkers ▸ by simp)
      obtain ⟨key, text, -, rfl, hkey⟩ := hworker.eq_markerPatch hpending hpatch
      refine h.receive hworkers (fun hmarked => exists_warranted_receive reply ?_)
        (worker.held_receive_of_delivers hreply)
      rcases hkey with rfl | ⟨rfl, -, hwarrant⟩
      · rw [at?_annotation_of_assign?_apply_markerPatch happlied, if_neg (by decide)] at hmarked
        have hwarranted := h.stored hmarked
        rwa [Cluster.Warranted, hworkers] at hwarranted
      · exact ⟨worker, by simp, hwarrant⟩

/--
When a tick has let its pod go, some tick of the run has removed the registration of the
runner, or has found none while its pod had stopped or the release had had its time.
-/
theorem exists_warrant_of_safeToDelete {s t : Cluster} {actions : List Action}
    (hrun : Run assigns s actions t) (hidle : s.workers = [])
    (hunmarked : s.marker? completeMarker = none) {duty : Duty}
    (hduty : ∀ worker ∈ t.workers, worker.job.duty = duty) {worker : Worker}
    (hworker : worker ∈ t.workers) {pod : Pod} (hreleased : worker.released? = some pod) :
    ∃ other ∈ t.workers, Warrant duty.policy duty.scope duty.runner other.job.now other.given
      other.answers := by
  have hjustified := hrun.preserves Step.justified (justified_of_idle hidle hunmarked)
  have hwarranted : t.Warranted := by
    rcases (hjustified.sound worker hworker).warranted_or_marked hreleased with hown | hmarked
    · exact ⟨worker, hworker, hown⟩
    · exact hjustified.held worker hworker hmarked
  obtain ⟨other, hother, hwarrant⟩ := hwarranted
  refine ⟨other, hother, ?_⟩
  rw [← hduty other hother]
  exact hwarrant

namespace Race

/-!
Two ticks begin on the same pod, and the patch of one overtakes that of the other. A later
tick finds the pod stopped and writes the completion marker, but never learns that it has
been stored. The last tick finds the marker and lets the pod go.
-/

/-- What every tick is to do, at the beginning of 1970. -/
def job : Job where
  duty := { policy := {}, scope := .organization "cto", runner := "runner-1" }
  now := .ofSeconds 0
  connection :=
    { github := { baseUrl := "https://api.github.com", token := "token", userAgent := "agent" }
      kubernetes := { defaultNamespace := "default" }
      now := 0 }

def timestamp : String := "1970-01-01T00:00:00Z"

/-- The pod of the runner, which has stopped, with a version and with some markers. -/
def document (version : String) (markers : List String) : Document :=
  .object [
    (some "metadata", .object [
      (some "annotations", .object (markers.map fun key =>
        (some key, .string (some timestamp)))),
      (some "name", .string (some "runner-1")),
      (some "resourceVersion", .string (some version))]),
    (some "status", .object [(some "phase", .string (some "Succeeded"))])]

def stored (version : String) (markers : List String) : Json :=
  (document version markers).toJson?.getD .null

def pod (version : String) (markers : List String) : Pod :=
  (Pod.ofDocument? (document version markers)).getD {}

/-- The reply that no runner is registered. -/
def nobody : Reply :=
  some { status := 200, body := Text.toBytes "\x7b\"total_count\":0,\"runners\":[]\x7d" }

def early : Worker := .start job (pod "1" [])

def later : Worker := .start job (pod "2" [startMarker])

def last : Worker := .start job (pod "3" markerKeys)

def before : Cluster where
  stored := stored "1" []
  versions := ["1"]
  workers := []

def after : Cluster where
  stored := stored "3" markerKeys
  versions := ["3", "2", "1"]
  workers := [last, (later.receive nobody).receive none, early.receive none, early.receive none]

def actions : List Action := [
  .start job (pod "1" []),
  .start job (pod "1" []),
  .accept (markerPatch (some "1") startMarker timestamp) "2",
  .answer none,
  .start job (pod "2" [startMarker]),
  .answer nobody,
  .accept (markerPatch (some "2") completeMarker timestamp) "3",
  .start job (pod "3" markerKeys)]

theorem delivers_none (value : Json) : Delivers none value := by
  rintro response body document ⟨⟩

theorem refuses_none : Refuses none := by
  rintro response ⟨⟩

/-- A patch is waited for if one that is the same is, floating-point numbers aside. -/
theorem exists_pending {worker : Worker} {patch : Json} (hexact : patch.Exact)
    (h : (worker.pending?.bind Request.patch?).any (fun found => found.same patch) = true) :
    ∃ request, worker.pending? = some request ∧ request.patch? = some patch := by
  obtain ⟨found, hfound, hsame⟩ := (Option.any_eq_true _ _).1 h
  obtain ⟨request, hpending, hpatch⟩ := Option.bind_eq_some_iff.1 hfound
  exact ⟨request, hpending, Json.eq_of_same hexact hsame ▸ hpatch⟩

theorem early_asks : ∃ request, early.pending? = some request ∧
    request.patch? = some (markerPatch (some "1") startMarker timestamp) := by
  refine exists_pending ?_ (by decide +kernel)
  simp [markerPatch, markerMetadata, Json.ofFields, Json.Exact, Json.ExactMembers]

theorem later_lists : ∃ request, later.pending? = some request ∧ request.patch? = none := by
  obtain ⟨request, hpending, hnone⟩ :
      ∃ request, later.pending? = some request ∧ request.patch?.isNone = true :=
    (Option.any_eq_true _ _).1 (by decide +kernel)
  exact ⟨request, hpending, Option.isNone_iff_eq_none.1 hnone⟩

theorem later_asks : ∃ request, (later.receive nobody).pending? = some request ∧
    request.patch? = some (markerPatch (some "2") completeMarker timestamp) := by
  refine exists_pending ?_ (by decide +kernel)
  simp [markerPatch, markerMetadata, Json.ofFields, Json.Exact, Json.ExactMembers]

theorem run : Run Fresh before actions after := by
  obtain ⟨start, hstart, hstartPatch⟩ := early_asks
  obtain ⟨listing, hlisting, hnone⟩ := later_lists
  obtain ⟨complete, hcomplete, hcompletePatch⟩ := later_asks
  have hread₁ : (pod "1" []).ReadFrom (stored "1" []) := ⟨document "1" [], rfl, rfl⟩
  have hread₂ : (pod "2" [startMarker]).ReadFrom (stored "2" [startMarker]) :=
    ⟨document "2" [startMarker], rfl, rfl⟩
  have hread₃ : (pod "3" markerKeys).ReadFrom (stored "3" markerKeys) :=
    ⟨document "3" markerKeys, rfl, rfl⟩
  have hfresh₂ : Fresh ["1"] "2" := by simp [Fresh]
  have hfresh₃ : Fresh ["2", "1"] "3" := by simp [Fresh]
  refine .cons (.start hread₁) (.cons (.start hread₁) ?_)
  refine .cons (@Step.accept _ _ [early] [] early start _ (stored "2" [startMarker]) "2" none rfl
    hstart hstartPatch rfl hfresh₂ rfl (delivers_none _)) ?_
  refine .cons (@Step.answer _ _ [] [early.receive none] early start none rfl hstart
    (.inr refuses_none)) ?_
  refine .cons (.start hread₂) ?_
  refine .cons (@Step.answer _ _ [] _ later listing nobody rfl hlisting
    (.inl hnone)) ?_
  refine .cons (@Step.accept _ _ [] _ (later.receive nobody) complete _ (stored "3" markerKeys)
    "3" none rfl hcomplete hcompletePatch rfl hfresh₃ rfl (delivers_none _)) ?_
  exact .cons (.start hread₃) .nil

end Race

/-- The last tick of the race has let the pod go, and another one has had the warrant. -/
theorem exists_warrant_of_race :
    Race.last.released? = some (Race.pod "3" markerKeys) ∧
      ∃ other ∈ Race.after.workers, Warrant Race.job.duty.policy Race.job.duty.scope
        Race.job.duty.runner other.job.now other.given other.answers := by
  have hduty : ∀ worker ∈ Race.after.workers, worker.job.duty = Race.job.duty := by
    simp only [Race.after, List.forall_mem_cons]
    exact ⟨rfl, rfl, rfl, rfl, by simp⟩
  have hreleased : Race.last.released? = some (Race.pod "3" markerKeys) := by decide +kernel
  exact ⟨hreleased, exists_warrant_of_safeToDelete Race.run rfl rfl hduty
    List.mem_cons_self hreleased⟩

end RunnerRelease
