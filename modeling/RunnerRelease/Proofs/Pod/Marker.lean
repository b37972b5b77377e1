import RunnerRelease.Proofs.Pod.Patch
import RunnerRelease.Proofs.Pod.Reading

/-!
# The patch that writes a marker

The conditional patch between a pod and the same pod with one more annotation names that
annotation and the version, and nothing else of the pod. Applied to whatever is stored, it
writes that annotation.

## Implementation notes

The two pods are compared level by level with `diff_object_single`. What the patch does to
a stored value is a statement about another value than the one it was made from, which may
have changed since; it is therefore stated for all values.
-/

namespace RunnerRelease

open Members Json MergePatch

theorem StringMap.get?_insert (m : StringMap) (key value other : String) :
    (m.insert key value).get? other = if key = other then some value else m.get? other :=
  Members.get?_insert m.entries key value other

/-- The patch from a map to the map with one more key. -/
theorem StringMap.diff_insert {m : StringMap} {key : String} (value : String)
    (h : m.get? key = none) :
    diff m.toJson (m.insert key value).toJson = .object [(key, .string value)] := by
  have hget (n : StringMap) (k : String) :
      Members.get? (n.entries.map fun e => (e.1, Json.string e.2)) k = (n.get? k).map .string :=
    Members.get?_map _ n.entries k
  refine diff_object_single (Members.ascending_map (m.insert key value).ascending _) ?_ ?_
  · rw [hget, hget, h, StringMap.get?_insert, if_pos rfl]
    rfl
  · intro other hne
    rw [hget, hget, StringMap.get?_insert, if_neg hne]

namespace Metadata

/-- The metadata with one annotation set. -/
def annotate (m : Metadata) (key value : String) : Metadata :=
  { m with annotations := some ((m.annotations.getD .empty).insert key value) }

theorem at?_annotation_toJson (m : Metadata) (key : String) :
    m.toJson.at? ["annotations", key] =
      (m.annotations.bind fun annotations => annotations.get? key).map .string := by
  have hget : m.toJson.get? "annotations" = m.annotations.map StringMap.toJson := by
    simp [toJson]
  rw [at?_cons, hget]
  cases m.annotations with
  | none => rfl
  | some annotations =>
      rw [Option.map_some, Option.bind_some, at?_cons, StringMap.get?_toJson]
      cases hkey : annotations.get? key <;> simp [hkey]

/-- The patch from metadata to the metadata with one more annotation. -/
theorem diff_annotate {m : Metadata} {key : String} (value : String)
    (h : (m.annotations.bind fun annotations => annotations.get? key) = none) :
    diff m.toJson (m.annotate key value).toJson =
      .object [("annotations", .object [(key, .string value)])] := by
  obtain ⟨old, hold⟩ : ∃ old, m.toJson = .object old := ⟨_, rfl⟩
  obtain ⟨new, hnew⟩ : ∃ new, (m.annotate key value).toJson = .object new := ⟨_, rfl⟩
  have hget : Members.get? old "annotations" = m.annotations.map StringMap.toJson := by
    rw [← get?_object, ← hold]
    simp [toJson]
  have hget' : Members.get? new "annotations" =
      some ((m.annotations.getD .empty).insert key value).toJson := by
    rw [← get?_object, ← hnew]
    simp [toJson, annotate]
  rw [hold, hnew]
  refine diff_object_single
    (canonical_object_iff.1 (hnew ▸ (m.annotate key value).plain_toJson).canonical).1 ?_ ?_
  · rw [hget, hget']
    cases hm : m.annotations with
    | none => rfl
    | some annotations =>
        rw [hm, Option.bind_some] at h
        have hne : annotations.toJson ≠ (annotations.insert key value).toJson := by
          intro heq
          have hkey := congrArg (fun v => v.get? key) heq
          simp [StringMap.get?_toJson, StringMap.get?_insert, h] at hkey
        rw [Option.map_some, Option.getD_some,
          difference_of_ne (StringMap.plain_toJson _).exact hne, StringMap.diff_insert value h]
  · intro other hne
    rw [← get?_object new, ← get?_object old, ← hold, ← hnew]
    simp [toJson, annotate, hne]

end Metadata

namespace Pod

theorem annotated_annotate (pod : Pod) (key value other : String) :
    (pod.annotate key value).annotated other =
      if key = other then some value else pod.annotated other := by
  rw [annotated, annotate, Option.bind_some, StringMap.get?_insert, annotated]
  split
  · rfl
  · cases pod.metadata.annotations <;> rfl

/-- The difference between a pod and the pod with one more annotation is that annotation. -/
theorem diff_annotate {pod : Pod} {key : String} (value : String)
    (h : pod.annotated key = none) :
    diff pod.toJson (pod.annotate key value).toJson =
      .object [("metadata", .object [("annotations", .object [(key, .string value)])])] := by
  obtain ⟨old, oldInner, hold, holdInner, -, -, hget⟩ := pod.exists_members_toJson
  obtain ⟨new, newInner, hnew, hnewInner, hasc, -, hget'⟩ :=
    (pod.annotate key value).exists_members_toJson
  have hinner : diff (.object oldInner) (.object newInner) =
      .object [("annotations", .object [(key, .string value)])] := by
    rw [← holdInner, ← hnewInner]
    exact Metadata.diff_annotate value h
  have hne : object oldInner ≠ .object newInner := by
    intro heq
    have hkey := congrArg (fun v => v.at? ["annotations", key]) heq
    rw [← holdInner, ← hnewInner] at hkey
    simp only [Metadata.at?_annotation_toJson] at hkey
    change (pod.annotated key).map _ = ((pod.annotate key value).annotated key).map _ at hkey
    rw [h, annotated_annotate, if_pos rfl] at hkey
    cases hkey
  rw [hold, hnew]
  refine diff_object_single hasc ?_ ?_
  · rw [hget, hget', difference_of_ne
      (hnewInner ▸ (pod.annotate key value).metadata.plain_toJson).exact hne, hinner]
  · intro other hother
    rw [← get?_object new, ← get?_object old, ← hold, ← hnew]
    simp [toJson, annotate, hother]

/-- The metadata that the patch of a marker names. -/
def markerMetadata (version : Option String) (key value : String) : Json :=
  .ofFields [
    ("annotations", some (.object [(key, .string value)])),
    ("resourceVersion", version.map .string)]

/-- The patch that writes one annotation, preconditioned on a version if there is one. -/
def markerPatch (version : Option String) (key value : String) : Json :=
  .object [("metadata", markerMetadata version key value)]

/-- The patch that adds an annotation names nothing but the annotation and the version. -/
theorem patchTo_annotate {pod : Pod} {key : String} (value : String)
    (h : pod.annotated key = none) :
    pod.patchTo (pod.annotate key value) =
      markerPatch pod.metadata.resourceVersion key value := by
  rw [patchTo, diff_annotate value h]
  cases pod.metadata.resourceVersion with
  | none => rfl
  | some version =>
      dsimp only
      rw [pinVersion_object version (.inr rfl)]
      simp +decide [markerPatch, markerMetadata, ofFields, Members.insert]

theorem exists_members_markerMetadata (version : Option String) (key value : String) :
    ∃ ms : Members Json, markerMetadata version key value = .object ms ∧ ms.Ascending ∧
      ms.get? "annotations" = some (.object [(key, .string value)]) := by
  refine ⟨_, rfl, ascending_ofFields (by simp only [List.map_cons, List.map_nil]; decide), ?_⟩
  simp [Members.get?_cons]

/-- The patch itself holds its annotation and no other. -/
theorem at?_annotation_markerPatch (version : Option String) (key value other : String) :
    (markerPatch version key value).at? (annotationPath other) =
      if key = other then some (.string value) else none := by
  obtain ⟨ms, hms, -, hget⟩ := exists_members_markerMetadata version key value
  rw [markerPatch, hms, annotationPath, at?_object_cons_cons, Members.get?_cons, if_pos rfl,
    Option.getD_some, at?_object_cons_cons, hget, Option.getD_some, at?_cons, get?_object,
    Members.get?_cons, Members.get?_nil]
  by_cases hk : key = other
  · rw [if_pos hk]
    rfl
  · rw [if_neg hk]
    rfl

/-- The version that the patch names is the one it is preconditioned on. -/
theorem at?_version_markerPatch (version : Option String) (key value : String) :
    (markerPatch version key value).at? versionPath = version.map .string := by
  cases version <;> rfl

/-- Whatever it is applied to, the patch writes its annotation and leaves all others alone. -/
theorem at?_annotation_apply_markerPatch (stored : Json) (version : Option String)
    (key value other : String) :
    (apply stored (markerPatch version key value)).at? (annotationPath other) =
      if key = other then some (.string value) else stored.at? (annotationPath other) := by
  obtain ⟨ms, hms, hasc, hget⟩ := exists_members_markerMetadata version key value
  have hpatch : markerPatch version key value = .object [("metadata", .object ms)] := by
    rw [← hms]
    rfl
  rw [hpatch, annotationPath,
    at?_apply_object stored (List.pairwise_singleton _ _) (if_pos rfl) (by simp),
    at?_apply_object _ hasc hget (by simp), at?_cons,
    get?_apply_object _ (List.pairwise_singleton _ _), Members.get?_cons, get?_getD_null,
    get?_getD_null]
  by_cases hk : key = other
  · rw [if_pos hk, if_pos hk]
    rfl
  · rw [if_neg hk, if_neg hk, Members.get?_nil]
    simp only [at?_cons, amended, Option.bind_assoc]

/-- Another version that is written afterwards does not change that. -/
theorem at?_annotation_of_assign?_apply_markerPatch {stored result fresh : Json}
    {version : Option String} {key value : String}
    (h : (apply stored (markerPatch version key value)).assign? versionPath fresh = some result)
    (other : String) :
    result.at? (annotationPath other) =
      if key = other then some (.string value) else stored.at? (annotationPath other) := by
  have hsame : result.at? (annotationPath other) =
      (apply stored (markerPatch version key value)).at? (annotationPath other) :=
    at?_of_assign?_of_ne ["metadata"] [] [other] (by decide) h
  rw [hsame, at?_annotation_apply_markerPatch]

/-- A patch with one text writes the text where it can be written. -/
theorem apply_single_of_assign? {target result : Json} {key text : String}
    (h : target.assign? [key] (.string text) = some result) :
    apply target (.object [(key, .string text)]) = result := by
  cases target with
  | object ms => exact Option.some.inj h
  | null => exact Option.some.inj h
  | _ => cases h

/--
Applied to a value of the version it names, and followed by the writing of another version,
the patch has written its annotation and that version, and nothing else.
-/
theorem assign?_apply_markerPatch {stored result : Json} {version key value : String}
    (hversion : stored.at? versionPath = some (.string version))
    (hassign : stored.assign? (annotationPath key) (.string value) = some result)
    (fresh : Json) :
    (apply stored (markerPatch (some version) key value)).assign? versionPath fresh =
      result.assign? versionPath fresh := by
  obtain ⟨metadata, hmetadata, hinside⟩ := Option.bind_eq_some_iff.1 hversion
  obtain ⟨text, htext, -⟩ := Option.bind_eq_some_iff.1 hinside
  obtain ⟨outer, rfl⟩ := exists_object_of_get? hmetadata
  obtain ⟨inner, rfl⟩ := exists_object_of_get? htext
  rw [get?_object] at hmetadata
  rw [annotationPath, assign?_object_cons, hmetadata, Option.getD_some,
    assign?_object_cons] at hassign
  obtain ⟨changed, hchanged, rfl⟩ := Option.map_eq_some_iff.1 hassign
  obtain ⟨annotations, hannotations, rfl⟩ := Option.map_eq_some_iff.1 hchanged
  have hinner : apply (.object inner) (markerMetadata (some version) key value) =
      .object (Members.insert (Members.insert inner "annotations" annotations) "resourceVersion"
        (.string version)) := by
    rw [← apply_single_of_assign? hannotations]
    rfl
  have houter : apply (.object outer) (markerPatch (some version) key value) =
      .object (Members.insert outer "metadata"
        (apply (.object inner) (markerMetadata (some version) key value))) := by
    rw [markerPatch, apply_object_single _ _ (by simp [markerMetadata, ofFields]), hmetadata,
      Option.getD_some]
  rw [houter, hinner, versionPath]
  simp only [assign?, Members.get?_insert, if_true, Option.getD_some, Members.insert_insert,
    Option.map_some]

end Pod

end RunnerRelease
