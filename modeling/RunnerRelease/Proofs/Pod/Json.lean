import RunnerRelease.Pod.Json
import RunnerRelease.Proofs.Json.Path
import RunnerRelease.Proofs.MergePatch.RoundTrip

/-!
# The JSON form of pods

Pods are written as plain values: objects in key order, no floating-point numbers and
no nulls at all among the members. Patches between pods are exact for that reason.
-/

namespace RunnerRelease

namespace Json

/-- A value as a typed record is written: in key order, without null and floating-point numbers. -/
structure Plain (v : Json) : Prop where
  canonical : v.Canonical
  exact : v.Exact
  ne_null : v ≠ .null
  noNullMember : v.NoNullMember

@[simp] theorem plain_string (s : String) : (string s).Plain :=
  ⟨by simp [Canonical], by simp [Exact], by simp, by simp [NoNullMember]⟩

@[simp] theorem plain_bool (b : Bool) : (Json.bool b).Plain :=
  ⟨by simp [Canonical], by simp [Exact], by simp, by simp [NoNullMember]⟩

@[simp] theorem plain_int (n : Int) : (int n).Plain :=
  ⟨by simp [int, Canonical], by simp [int, Exact], by simp [int], by simp [int, NoNullMember]⟩

theorem plain_array {items : List Json} (h : ∀ v ∈ items, v.Plain) : (array items).Plain where
  canonical := canonical_array_iff.2 fun v hv => (h v hv).canonical
  exact := exact_array_iff.2 fun v hv => (h v hv).exact
  ne_null := by simp
  noNullMember := by simp [NoNullMember]

theorem plain_object {ms : Members Json} (hms : ms.Ascending) (h : ∀ m ∈ ms, m.2.Plain) :
    (object ms).Plain where
  canonical := canonical_object_iff.2 ⟨hms, fun m hm => (h m hm).canonical⟩
  exact := exact_object_iff.2 fun m hm => (h m hm).exact
  ne_null := by simp
  noNullMember := noNullMember_object_iff.2 fun m hm => ⟨(h m hm).ne_null, (h m hm).noNullMember⟩

theorem ascending_ofFields {fields : List (String × Option Json)}
    (h : (fields.map Prod.fst).Pairwise (· < ·)) :
    Members.Ascending (fields.filterMap fun f => f.2.map fun v => (f.1, v)) := by
  refine List.Pairwise.filterMap _ ?_ (List.pairwise_map.1 h)
  intro f g hfg a ha b hb
  obtain ⟨v, -, rfl⟩ := Option.map_eq_some_iff.1 ha
  obtain ⟨w, -, rfl⟩ := Option.map_eq_some_iff.1 hb
  exact hfg

/-- Fields in key order with plain values make up a plain object. -/
theorem plain_ofFields {fields : List (String × Option Json)}
    (hkeys : (fields.map Prod.fst).Pairwise (· < ·))
    (h : ∀ f ∈ fields, ∀ v ∈ f.2, v.Plain) : (ofFields fields).Plain := by
  refine plain_object (ascending_ofFields hkeys) fun m hm => ?_
  obtain ⟨f, hf, hv⟩ := List.mem_filterMap.1 hm
  obtain ⟨v, hfv, rfl⟩ := Option.map_eq_some_iff.1 hv
  exact h f hf v hfv

theorem plain_of_mem_some {value : Json} (h : value.Plain) : ∀ v ∈ some value, v.Plain := by
  rintro v ⟨⟩
  exact h

/-- A field that is written by a plain form has a plain value, if any. -/
theorem plain_of_mem_map {α : Type} {write : α → Json} (h : ∀ a, (write a).Plain)
    {field : Option α} : ∀ v ∈ field.map write, v.Plain := by
  intro v hv
  obtain ⟨a, -, rfl⟩ := Option.map_eq_some_iff.1 hv
  exact h a

theorem plain_array_map {α : Type} {write : α → Json} (h : ∀ a, (write a).Plain)
    (items : List α) : (array (items.map write)).Plain := by
  refine plain_array fun v hv => ?_
  obtain ⟨a, -, rfl⟩ := List.mem_map.1 hv
  exact h a

@[simp] theorem get?_ofFields_nil (key : String) : (ofFields []).get? key = none := rfl

@[simp] theorem get?_ofFields_cons (k : String) (o : Option Json)
    (rest : List (String × Option Json)) (key : String) :
    (ofFields ((k, o) :: rest)).get? key =
      if k = key then o.or ((ofFields rest).get? key) else (ofFields rest).get? key := by
  cases o with
  | none => simp [ofFields]
  | some v => simp [ofFields, Members.get?_cons]

end Json

open Json

theorem StringMap.plain_toJson (m : StringMap) : m.toJson.Plain := by
  refine plain_object (Members.ascending_map m.ascending _) fun e he => ?_
  obtain ⟨entry, -, rfl⟩ := List.mem_map.1 he
  exact plain_string _

theorem StringMap.get?_toJson (m : StringMap) (key : String) :
    m.toJson.get? key = (m.get? key).map .string :=
  Members.get?_map _ m.entries key

theorem Metadata.plain_toJson (m : Metadata) : m.toJson.Plain := by
  refine plain_ofFields (by simp only [List.map_cons, List.map_nil]; decide) ?_
  simp only [List.forall_mem_cons]
  have htext {field : Option String} : ∀ v ∈ field.map Json.string, v.Plain :=
    plain_of_mem_map plain_string
  have hmap {field : Option StringMap} : ∀ v ∈ field.map StringMap.toJson, v.Plain :=
    plain_of_mem_map StringMap.plain_toJson
  exact ⟨hmap, plain_of_mem_map (plain_array_map plain_string), htext, hmap, htext, htext,
    htext, htext, by simp⟩

theorem Container.plain_toJson (c : Container) : c.toJson.Plain := by
  refine plain_ofFields (by simp only [List.map_cons, List.map_nil]; decide) ?_
  simp only [List.forall_mem_cons]
  exact ⟨plain_of_mem_map plain_string, plain_of_mem_some (plain_string _), by simp⟩

theorem PodSpec.plain_toJson (s : PodSpec) : s.toJson.Plain := by
  refine plain_ofFields (by simp only [List.map_cons, List.map_nil]; decide) ?_
  simp only [List.forall_mem_cons]
  exact ⟨plain_of_mem_some (plain_array_map Container.plain_toJson _),
    plain_of_mem_map plain_string, plain_of_mem_map plain_string, by simp⟩

theorem ContainerState.plain_terminationToJson (t : Termination) :
    (terminationToJson t).Plain := by
  refine plain_ofFields (by simp only [List.map_cons, List.map_nil]; decide) ?_
  simp only [List.forall_mem_cons]
  exact ⟨plain_of_mem_some (plain_int _), plain_of_mem_map plain_string,
    plain_of_mem_map plain_int, by simp⟩

theorem ContainerState.plain_toJson (s : ContainerState) : s.toJson.Plain := by
  refine plain_ofFields (by simp only [List.map_cons, List.map_nil]; decide) ?_
  simp only [List.forall_mem_cons]
  have hempty : (object []).Plain := plain_object Members.ascending_nil (by simp)
  have hwaiting (w : Waiting) : (ofFields [("reason", w.reason.map .string)]).Plain := by
    refine plain_ofFields (by simp) ?_
    simp only [List.forall_mem_cons]
    exact ⟨plain_of_mem_map plain_string, by simp⟩
  refine ⟨?_, plain_of_mem_map plain_terminationToJson, plain_of_mem_map hwaiting, by simp⟩
  split
  · exact plain_of_mem_some hempty
  · simp

theorem ContainerStatus.plain_toJson (s : ContainerStatus) : s.toJson.Plain := by
  refine plain_ofFields (by simp only [List.map_cons, List.map_nil]; decide) ?_
  simp only [List.forall_mem_cons]
  have hstate {field : Option ContainerState} :
      ∀ v ∈ field.map ContainerState.toJson, v.Plain :=
    plain_of_mem_map ContainerState.plain_toJson
  exact ⟨plain_of_mem_some (plain_string _), plain_of_mem_some (plain_string _), hstate,
    plain_of_mem_some (plain_string _), plain_of_mem_some (plain_bool _),
    plain_of_mem_some (plain_int _), hstate, by simp⟩

theorem PodStatus.plain_toJson (s : PodStatus) : s.toJson.Plain := by
  refine plain_ofFields (by simp only [List.map_cons, List.map_nil]; decide) ?_
  simp only [List.forall_mem_cons]
  have hlist {field : Option (List ContainerStatus)} :
      ∀ v ∈ field.map statusesToJson, v.Plain :=
    plain_of_mem_map (plain_array_map ContainerStatus.plain_toJson)
  have htext {field : Option String} : ∀ v ∈ field.map Json.string, v.Plain :=
    plain_of_mem_map plain_string
  exact ⟨hlist, hlist, hlist, htext, htext, htext, by simp⟩

namespace Pod

/-- The path of an annotation in the JSON form of a pod. -/
def annotationPath (key : String) : List String := ["metadata", "annotations", key]

/-- The path of the version in the JSON form of a pod. -/
def versionPath : List String := ["metadata", "resourceVersion"]

/-- A pod is written as an object in key order without nulls and floating-point numbers. -/
theorem plain_toJson (pod : Pod) : pod.toJson.Plain := by
  refine plain_ofFields (by simp only [List.map_cons, List.map_nil]; decide) ?_
  simp only [List.forall_mem_cons]
  exact ⟨plain_of_mem_some (plain_string _), plain_of_mem_some (plain_string _),
    plain_of_mem_some pod.metadata.plain_toJson, plain_of_mem_map PodSpec.plain_toJson,
    plain_of_mem_map PodStatus.plain_toJson, by simp⟩

@[simp] theorem get?_metadata_toJson (pod : Pod) :
    pod.toJson.get? "metadata" = some pod.metadata.toJson := by
  simp [toJson]

/-- The members that a pod is written with, and those of its metadata. -/
theorem exists_members_toJson (pod : Pod) :
    ∃ ms inner : Members Json, pod.toJson = .object ms ∧ pod.metadata.toJson = .object inner ∧
      ms.Ascending ∧ inner.Ascending ∧ ms.get? "metadata" = some (.object inner) := by
  obtain ⟨ms, hms⟩ : ∃ ms, pod.toJson = .object ms := ⟨_, rfl⟩
  obtain ⟨inner, hinner⟩ : ∃ inner, pod.metadata.toJson = .object inner := ⟨_, rfl⟩
  refine ⟨ms, inner, hms, hinner, ?_, ?_, ?_⟩
  · exact (canonical_object_iff.1 (hms ▸ pod.plain_toJson).canonical).1
  · exact (canonical_object_iff.1 (hinner ▸ pod.metadata.plain_toJson).canonical).1
  · rw [← hinner, ← pod.get?_metadata_toJson, hms, get?_object]

/-- To change the version of a pod is to write the version into its JSON form. -/
theorem assign?_resourceVersion_toJson (pod : Pod) (version : String) :
    pod.toJson.assign? versionPath (.string version) =
      some (pod.withVersion version).toJson := by
  obtain ⟨ms, inner, hms, hinner, hasc, hinnerAsc, hmetadata⟩ := pod.exists_members_toJson
  obtain ⟨changed, deep, hchanged, hdeep, hchangedAsc, hdeepAsc, hmetadata'⟩ :=
    (pod.withVersion version).exists_members_toJson
  have hdeeper : (object inner).assign? ["resourceVersion"] (.string version) =
      some (.object deep) := by
    refine assign?_cons_of_get? hinnerAsc hdeepAsc rfl fun other => ?_
    rw [← get?_object deep, ← get?_object inner, ← hdeep, ← hinner]
    by_cases hk : "resourceVersion" = other
    · subst hk
      simp [Metadata.toJson, withVersion]
    · simp [Metadata.toJson, withVersion, hk]
  have hmember : ((ms.get? "metadata").getD .null).assign? ["resourceVersion"]
      (.string version) = some (.object deep) := by
    rw [hmetadata]
    exact hdeeper
  rw [hms, hchanged]
  refine assign?_cons_of_get? hasc hchangedAsc hmember fun other => ?_
  by_cases hk : "metadata" = other
  · rw [if_pos hk, ← hk, hmetadata']
  · rw [if_neg hk, ← get?_object changed, ← get?_object ms, ← hchanged, ← hms]
    simp [toJson, withVersion, hk]

end Pod

end RunnerRelease
