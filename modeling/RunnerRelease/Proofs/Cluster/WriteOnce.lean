import RunnerRelease.Proofs.Cluster.Justification

/-!
# Markers are written once

Ticks that run side by side, on pods that may be out of date, neither overwrite a marker nor
lose what another client has written, as long as every write gets a fresh version.

## Implementation notes

A tick checks the pod that it holds, which may differ from the one stored. The invariant is
that the two agree where their versions do: a patch is applied only when they do, and a write
makes every pod that is held out of date, since the fresh version is not that of any of them.
-/

namespace RunnerRelease

open Pod Http

/-- A pod of a version that has been assigned, read from the stored one if that has this version. -/
def Snapshot (s : Cluster) (pod : Pod) : Prop :=
  ∃ version ∈ s.versions, pod.metadata.resourceVersion = some version ∧
    (s.stored.at? versionPath = some (.string version) → pod.ReadFrom s.stored)

/-- A pod becomes out of date when another one is stored under a fresh version. -/
theorem Snapshot.outdated {s t : Cluster} {pod : Pod} {version : String} (h : Snapshot s pod)
    (hfresh : Fresh s.versions version) (hversions : t.versions = version :: s.versions)
    (hstored : t.stored.at? versionPath = some (.string version)) : Snapshot t pod := by
  obtain ⟨held, hheld, hpod, -⟩ := h
  refine ⟨held, ?_, hpod, fun hsame => ?_⟩
  · rw [hversions]
    exact List.mem_cons_of_mem _ hheld
  · rw [hstored] at hsame
    cases hsame
    exact absurd hheld hfresh

/-- A pod that has just been read is up to date. -/
theorem snapshot_of_readFrom {s : Cluster} {pod : Pod} {version : String}
    (hversion : version ∈ s.versions) (hstored : s.stored.at? versionPath = some (.string version))
    (hread : pod.ReadFrom s.stored) : Snapshot s pod :=
  ⟨version, hversion, (hread.resourceVersion_eq_some_iff version).2 hstored, fun _ => hread⟩

/-- What holds in every cluster where versions are fresh. -/
structure Coherent (s : Cluster) : Prop where
  version : ∃ version ∈ s.versions, s.stored.at? versionPath = some (.string version)
  sound : ∀ worker ∈ s.workers, worker.Sound
  held : ∀ worker ∈ s.workers, Snapshot s worker.held
  /-- What a tick knows to be written is stored. -/
  started : ∀ worker ∈ s.workers, StartKnown worker.given worker.answers →
    (s.marker? startMarker).isSome

theorem coherent_of_idle {s : Cluster} (hidle : s.workers = [])
    (hversion : ∃ version ∈ s.versions, s.stored.at? versionPath = some (.string version)) :
    Coherent s where
  version := hversion
  sound := by simp [hidle]
  held := by simp [hidle]
  started := by simp [hidle]

/-- One value is the other with one marker that it did not have and with another version. -/
def AddsMarker (key version : String) (old new : Json) : Prop :=
  old.at? (annotationPath key) = none ∧ ∃ text,
    (old.assign? (annotationPath key) (.string text)).bind (fun marked =>
      marked.assign? versionPath (.string version)) = some new

/-- A marker that is added is there, and no other annotation has changed. -/
theorem AddsMarker.at?_annotation {key version : String} {old new : Json}
    (h : AddsMarker key version old new) :
    (new.at? (annotationPath key)).isSome ∧ ∀ other, key ≠ other →
      new.at? (annotationPath other) = old.at? (annotationPath other) := by
  obtain ⟨-, text, hwritten⟩ := h
  obtain ⟨marked, hmarked, hnew⟩ := Option.bind_eq_some_iff.1 hwritten
  have hsame (other : String) :
      new.at? (annotationPath other) = marked.at? (annotationPath other) :=
    Json.at?_of_assign?_of_ne ["metadata"] [] [other] (by decide) hnew
  constructor
  · rw [hsame, Json.at?_of_assign? hmarked]
    rfl
  · intro other hne
    rw [hsame]
    exact Json.at?_of_assign?_of_ne ["metadata", "annotations"] [] [] hne hmarked

/-- Once a marker is added to a value where it may be, the start marker is there. -/
theorem AddsMarker.isSome_start {key version : String} {old new : Json}
    (h : AddsMarker key version old new) (hkey : key ∈ markerKeys)
    (hstarted : key = completeMarker → (old.at? (annotationPath startMarker)).isSome) :
    (new.at? (annotationPath startMarker)).isSome := by
  by_cases heq : key = startMarker
  · rw [← heq]
    exact h.at?_annotation.1
  · rw [h.at?_annotation.2 startMarker heq]
    apply hstarted
    simpa [markerKeys, heq] using hkey

/--
What a step does to the markers: nothing, or one of them is added by a patch that is applied,
the completion marker only after the start marker.
-/
inductive Marking (s : Cluster) (action : Action) (t : Cluster) : Prop
  | kept (hwrites : ∀ key, action.writes key = false)
      (hmarkers : ∀ key ∈ markerKeys, t.marker? key = s.marker? key)
  | added {key version : String} (hkey : key ∈ markerKeys)
      (hwrites : ∀ other, action.writes other = decide (key = other))
      (hadds : AddsMarker key version s.stored t.stored)
      (hstarted : key = completeMarker → (s.marker? startMarker).isSome)

/-- The patch of a tick is applied only to the pod that it was made from. -/
theorem Coherent.addsMarker {s : Cluster} (h : Coherent s) {worker : Worker}
    (hworker : worker ∈ s.workers) {request : Request} {patch stored : Json} {version : String}
    (hpending : worker.pending? = some request) (hpatch : request.patch? = some patch)
    (hmatch : patch.at? versionPath = s.stored.at? versionPath)
    (happlied : (MergePatch.apply s.stored patch).assign? versionPath (.string version) =
      some stored) :
    ∃ key ∈ markerKeys, AddsMarker key version s.stored stored ∧
      (∀ other, (patch.at? (annotationPath other)).isSome = decide (key = other)) ∧
      (key = completeMarker → (s.marker? startMarker).isSome) := by
  obtain ⟨key, text, hmissing, rfl, hkey⟩ := (h.sound worker hworker).eq_markerPatch hpending hpatch
  obtain ⟨held, -, hheld, hread⟩ := h.held worker hworker
  rw [hheld] at hmatch happlied ⊢
  rw [at?_version_markerPatch, Option.map_some] at hmatch
  have hstored := hmatch.symm
  have hread := hread hstored
  have hmissing' : s.stored.at? (annotationPath key) = none := by
    rw [hread.at?_annotation, hmissing]
    rfl
  obtain ⟨marked, hmarked⟩ := hread.exists_assign?_annotation key (.string text)
  have hadds : AddsMarker key version s.stored stored := by
    refine ⟨hmissing', text, ?_⟩
    rw [hmarked, Option.bind_some, ← assign?_apply_markerPatch hstored hmarked]
    exact happlied
  have hwrites (other : String) :
      ((markerPatch (some held) key text).at? (annotationPath other)).isSome =
        decide (key = other) := by
    rw [at?_annotation_markerPatch]
    split
    · rename_i hk
      simp [hk]
    · rename_i hk
      simp [hk]
  rcases hkey with rfl | ⟨rfl, hknown, -⟩
  · exact ⟨startMarker, by simp [markerKeys], hadds, hwrites, fun heq => absurd heq (by decide)⟩
  · exact ⟨completeMarker, by simp [markerKeys], hadds, hwrites,
      fun _ => h.started worker hworker hknown⟩

theorem Step.marking {s t : Cluster} {action : Action} (hstep : Step Fresh s action t)
    (h : Coherent s) : Marking s action t := by
  cases hstep with
  | start _ => exact .kept (fun _ => rfl) fun _ _ => rfl
  | write hmarkers _ _ => exact .kept (fun _ => rfl) hmarkers
  | answer _ _ _ => exact .kept (fun _ => rfl) fun _ _ => rfl
  | @accept before after worker request patch stored version reply hworkers hpending hpatch
      hmatch _ happlied _ =>
      have hworker : worker ∈ s.workers := by
        rw [hworkers]
        simp
      obtain ⟨key, hkey, hadds, hwrites, hstarted⟩ :=
        h.addsMarker hworker hpending hpatch hmatch happlied
      exact .added hkey hwrites hadds hstarted

/-- A marker that has a value keeps it. -/
theorem Marking.marker?_eq_some {s t : Cluster} {action : Action} (h : Marking s action t)
    {key : String} (hkey : key ∈ markerKeys) {value : Json} (hvalue : s.marker? key = some value) :
    t.marker? key = some value := by
  cases h with
  | kept _ hmarkers => rw [hmarkers key hkey, hvalue]
  | @added added version _ _ hadds _ =>
      have hne : added ≠ key := by
        rintro rfl
        have hmissing := hadds.1
        rw [Cluster.marker?, hmissing] at hvalue
        cases hvalue
      rw [Cluster.marker?, hadds.at?_annotation.2 key hne]
      exact hvalue

/-- A marker that has not been there is there as soon as it is written. -/
theorem Marking.toNat_marker? {s t : Cluster} {action : Action} (h : Marking s action t)
    {key : String} (hkey : key ∈ markerKeys) :
    (s.marker? key).isSome.toNat + (if action.writes key then 1 else 0) =
      (t.marker? key).isSome.toNat := by
  cases h with
  | kept hwrites hmarkers => simp [hwrites key, hmarkers key hkey]
  | @added added version _ hwrites hadds _ =>
      rw [hwrites key]
      by_cases heq : added = key
      · subst heq
        have hmissing : s.marker? added = none := hadds.1
        have hthere : (t.marker? added).isSome := hadds.at?_annotation.1
        simp [hmissing, hthere]
      · have hsame : t.marker? key = s.marker? key := hadds.at?_annotation.2 key heq
        simp [heq, hsame]

/-- The completion marker is not there without the start marker. -/
def Ordered (s : Cluster) : Prop :=
  (s.marker? completeMarker).isSome → (s.marker? startMarker).isSome

theorem Marking.isSome_marker? {s t : Cluster} {action : Action} (h : Marking s action t)
    {key : String} (hkey : key ∈ markerKeys) (hsome : (s.marker? key).isSome) :
    (t.marker? key).isSome := by
  obtain ⟨value, hvalue⟩ := Option.isSome_iff_exists.1 hsome
  rw [h.marker?_eq_some hkey hvalue]
  rfl

theorem Marking.ordered {s t : Cluster} {action : Action} (h : Marking s action t)
    (hordered : Ordered s) : Ordered t := by
  intro hcomplete
  have hkeep : (s.marker? startMarker).isSome → (t.marker? startMarker).isSome :=
    h.isSome_marker? (by simp [markerKeys])
  cases h with
  | kept _ hmarkers =>
      rw [hmarkers completeMarker (by simp [markerKeys])] at hcomplete
      exact hkeep (hordered hcomplete)
  | @added key version _ _ hadds hstarted =>
      by_cases heq : key = completeMarker
      · exact hkeep (hstarted heq)
      · have hsame : t.marker? completeMarker = s.marker? completeMarker :=
          hadds.at?_annotation.2 completeMarker heq
        rw [hsame] at hcomplete
        exact hkeep (hordered hcomplete)

theorem Step.coherent {s t : Cluster} {action : Action} (hstep : Step Fresh s action t)
    (h : Coherent s) : Coherent t := by
  have hkeep : (s.marker? startMarker).isSome → (t.marker? startMarker).isSome :=
    (hstep.marking h).isSome_marker? (by simp [markerKeys])
  cases hstep with
  | @start job pod hread =>
      obtain ⟨version, hversion, hstored⟩ := h.version
      refine ⟨h.version, ?_, ?_, ?_⟩
      · rw [List.forall_mem_cons]
        exact ⟨Worker.sound_start job pod, h.sound⟩
      · rw [List.forall_mem_cons, Worker.held_start]
        exact ⟨snapshot_of_readFrom hversion hstored hread, h.held⟩
      · rw [List.forall_mem_cons]
        refine ⟨fun hknown => ?_, h.started⟩
        rw [Cluster.marker?, hread.isSome_at?_annotation]
        exact Worker.startKnown_start hknown
  | @write value version _ hversion hfresh =>
      refine ⟨⟨version, List.mem_cons_self, hversion⟩, h.sound, ?_, ?_⟩
      · intro worker hmem
        exact (h.held worker hmem).outdated hfresh rfl hversion
      · intro worker hmem hknown
        exact hkeep (h.started worker hmem hknown)
  | @answer before after worker request reply hworkers hpending hkept =>
      have hmem : worker ∈ s.workers := hworkers ▸ by simp
      have hworker : worker.Sound := h.sound worker hmem
      refine ⟨h.version, forall_mem_replace (hworkers ▸ h.sound) (hworker.receive reply),
        forall_mem_replace (hworkers ▸ h.held) ?_, forall_mem_replace (hworkers ▸ h.started) ?_⟩
      · rw [hworker.held_receive_of_kept hpending hkept]
        exact h.held worker hmem
      · intro hknown
        exact h.started worker hmem (hworker.startKnown_of_kept hpending hkept hknown)
  | @accept before after worker request patch stored version reply hworkers hpending hpatch
      hmatch hfresh happlied hreply =>
      have hmem : worker ∈ s.workers := hworkers ▸ by simp
      obtain ⟨key, hkey, hadds, -, hstarted⟩ := h.addsMarker hmem hpending hpatch hmatch happlied
      have hversion : stored.at? versionPath = some (.string version) :=
        Json.at?_of_assign? happlied
      have hothers : ∀ w ∈ s.workers,
          Snapshot { stored, versions := version :: s.versions, workers := [] } w.held := by
        intro w hw
        exact (h.held w hw).outdated hfresh rfl hversion
      refine ⟨⟨version, List.mem_cons_self, hversion⟩,
        forall_mem_replace (hworkers ▸ h.sound) ((h.sound worker hmem).receive reply),
        forall_mem_replace (hworkers ▸ hothers) ?_, fun _ _ _ => hadds.isSome_start hkey hstarted⟩
      rcases worker.held_receive_of_delivers hreply with hsame | hread
      · rw [hsame]
        exact hothers worker hmem
      · exact snapshot_of_readFrom List.mem_cons_self hversion hread

/-- Over a run, a marker is there in the end if it was there before or has been written. -/
theorem Run.toNat_marker? {s t : Cluster} {actions : List Action} (hrun : Run Fresh s actions t)
    (h : Coherent s) {key : String} (hkey : key ∈ markerKeys) :
    (s.marker? key).isSome.toNat + actions.countP (Action.writes key) =
      (t.marker? key).isSome.toNat := by
  induction hrun with
  | nil => simp
  | cons hstep _ ih =>
      rw [List.countP_cons, ← ih (hstep.coherent h), ← (hstep.marking h).toNat_marker? hkey]
      omega

theorem Run.marker?_eq_some {s t : Cluster} {actions : List Action}
    (hrun : Run Fresh s actions t) (h : Coherent s) {key : String} (hkey : key ∈ markerKeys)
    {value : Json} (hvalue : s.marker? key = some value) : t.marker? key = some value := by
  induction hrun with
  | nil => exact hvalue
  | cons hstep _ ih =>
      exact ih (hstep.coherent h) ((hstep.marking h).marker?_eq_some hkey hvalue)

theorem Run.ordered {s t : Cluster} {actions : List Action} (hrun : Run Fresh s actions t)
    (h : Coherent s) (hordered : Ordered s) : Ordered t := by
  induction hrun with
  | nil => exact hordered
  | cons hstep _ ih => exact ih (hstep.coherent h) ((hstep.marking h).ordered hordered)

/--
However ticks and other clients are interleaved: a marker keeps the value that it has got,
each marker is written at most once, the completion marker is not there without the start
marker, and a patch that is applied adds one marker and the version to what is stored.
-/
theorem markers_written_once {s t : Cluster} {actions : List Action}
    (hrun : Run Fresh s actions t) (hidle : s.workers = [])
    (hversion : ∃ version ∈ s.versions, s.stored.at? versionPath = some (.string version)) :
    (∀ later u, Run Fresh t later u → ∀ key ∈ markerKeys, ∀ value,
      t.marker? key = some value → u.marker? key = some value) ∧
    (∀ key ∈ markerKeys, actions.countP (Action.writes key) ≤ 1) ∧
    ((∀ key ∈ markerKeys, s.marker? key = none) →
      (t.marker? completeMarker).isSome → (t.marker? startMarker).isSome) ∧
    ∀ patch version u, Step Fresh t (.accept patch version) u →
      ∃ key ∈ markerKeys, AddsMarker key version t.stored u.stored := by
  have hbefore : Coherent s := coherent_of_idle hidle hversion
  have hafter : Coherent t := hrun.preserves Step.coherent hbefore
  refine ⟨?_, ?_, ?_, ?_⟩
  · intro later u hlater key hkey value hvalue
    exact hlater.marker?_eq_some hafter hkey hvalue
  · intro key hkey
    have hcount := hrun.toNat_marker? hbefore hkey
    have hbound := (t.marker? key).isSome.toNat_le
    omega
  · intro hunmarked
    refine hrun.ordered hbefore fun hcomplete => ?_
    rw [hunmarked completeMarker (by simp [markerKeys])] at hcomplete
    cases hcomplete
  · intro patch version u hstep
    cases hstep with
    | @accept before after worker request _ stored _ reply hworkers hpending hpatch hmatch _
        happlied _ =>
        obtain ⟨key, hkey, hadded, -, -⟩ :=
          hafter.addsMarker (hworkers ▸ by simp) hpending hpatch hmatch happlied
        exact ⟨key, hkey, hadded⟩

/-- In the race, where no marker is there at first, each of them is written at most once. -/
theorem markers_written_once_in_race :
    (∀ key ∈ markerKeys, Race.before.marker? key = none) ∧
      (∀ key ∈ markerKeys, Race.actions.countP (Action.writes key) ≤ 1) ∧
      ((Race.after.marker? completeMarker).isSome →
        (Race.after.marker? startMarker).isSome) := by
  have hunmarked : ∀ key ∈ markerKeys, Race.before.marker? key = none := by
    rw [markerKeys, List.forall_mem_cons, List.forall_mem_singleton]
    exact ⟨rfl, rfl⟩
  obtain ⟨-, honce, hordered, -⟩ :=
    markers_written_once Race.run rfl ⟨"1", List.mem_cons_self, rfl⟩
  exact ⟨hunmarked, honce, hordered hunmarked⟩

end RunnerRelease
