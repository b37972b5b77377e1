import RunnerRelease.Pod.Patch
import RunnerRelease.Proofs.Pod.Json

/-!
# Conditional patches of pods

A patch between pods carries the version of the first one, and leads to the second one
with that version.

## Implementation notes

The version is written into the difference afterwards. That this is possible rests on
`diff_toJson`: what the difference says of the metadata, it says with an object.
-/

namespace RunnerRelease.Pod

open Members Json MergePatch

theorem apply_diff_of_plain {base updated : Json} (hbase : base.Plain)
    (hupdated : updated.Plain) : apply base (diff base updated) = updated :=
  apply_diff hbase.canonical hupdated.canonical hupdated.noNullMember hupdated.exact

/-- The metadata within a patch: an object, or nothing where the patch does not name it. -/
def MetadataOf (patch inner : Members Json) : Prop :=
  patch.get? "metadata" = none ∧ inner = [] ∨ patch.get? "metadata" = some (.object inner)

/-- The difference of two pods leads from the metadata of one to that of the other. -/
theorem diff_toJson (base updated : Pod) :
    ∃ patch inner : Members Json, diff base.toJson updated.toJson = .object patch ∧
      patch.Ascending ∧ inner.Ascending ∧ MetadataOf patch inner ∧
      apply base.metadata.toJson (.object inner) = updated.metadata.toJson := by
  obtain ⟨old, oldInner, hold, holdInner, -, -, hget⟩ := base.exists_members_toJson
  obtain ⟨new, newInner, hnew, hnewInner, hasc, hascInner, hget'⟩ :=
    updated.exists_members_toJson
  have hmetadata : (patchMembers old new).get? "metadata" =
      if (object oldInner).same (.object newInner) then none
      else some (diff (.object oldInner) (.object newInner)) := by
    rw [get?_patchMembers old hasc, hget, hget', difference]
  rw [hold, hnew, diff_object]
  by_cases hsame : (object oldInner).same (.object newInner) = true
  · refine ⟨_, [], rfl, ascending_patchMembers old hasc, ascending_nil, ?_, ?_⟩
    · exact .inl ⟨by rw [hmetadata, if_pos hsame], rfl⟩
    · have heq : object oldInner = object newInner :=
        eq_of_same (hnewInner ▸ updated.metadata.plain_toJson).exact hsame
      rw [holdInner, hnewInner, apply_object, ← heq]
      rfl
  · refine ⟨_, patchMembers oldInner newInner, rfl, ascending_patchMembers old hasc,
      ascending_patchMembers oldInner hascInner, ?_, ?_⟩
    · exact .inr (by rw [hmetadata, if_neg hsame, diff_object])
    · rw [← diff_object, ← holdInner, ← hnewInner]
      exact apply_diff_of_plain base.metadata.plain_toJson updated.metadata.plain_toJson

theorem pinVersion_object (version : String) {patch inner : Members Json}
    (h : MetadataOf patch inner) :
    pinVersion version (.object patch) = .object (patch.insert "metadata"
      (.object (inner.insert "resourceVersion" (.string version)))) := by
  rcases h with ⟨hnone, rfl⟩ | hsome
  · simp [pinVersion, members?, hnone]
  · simp [pinVersion, members?, hsome]

/-- Writing the version into a patch meets nothing on its way that is no object. -/
theorem assign?_resourceVersion_object (version : String) {patch inner : Members Json}
    (h : MetadataOf patch inner) :
    (object patch).assign? versionPath (.string version) =
      some (pinVersion version (.object patch)) := by
  rw [pinVersion_object version h, versionPath, assign?_object_cons]
  rcases h with ⟨hnone, rfl⟩ | hsome
  · rw [hnone]
    rfl
  · rw [hsome]
    rfl

/-- The pinned patch leads to the updated pod with the pinned version. -/
theorem apply_pinVersion_diff (base updated : Pod) (version : String) :
    apply base.toJson (pinVersion version (diff base.toJson updated.toJson)) =
      (updated.withVersion version).toJson := by
  obtain ⟨patch, inner, hdiff, hpatch, hinner, hof, hlead⟩ := diff_toJson base updated
  obtain ⟨old, oldInner, hold, holdInner, hascOld, hascOldInner, hget⟩ :=
    base.exists_members_toJson
  obtain ⟨new, newInner, hnew, hnewInner, -, -, hget'⟩ := updated.exists_members_toJson
  have hwhole : applyMembers old patch = new := by
    have happly := apply_diff_of_plain base.plain_toJson updated.plain_toJson
    rw [hdiff, hold, hnew, apply_object] at happly
    exact object.inj happly
  have hinside : applyMembers oldInner inner = newInner := by
    rw [holdInner, hnewInner, apply_object] at hlead
    exact object.inj hlead
  have hwritten := updated.assign?_resourceVersion_toJson version
  rw [hnew, versionPath, assign?_object_cons, hget'] at hwritten
  rw [hdiff, pinVersion_object version hof, hold, apply_object]
  calc
    object (applyMembers old (patch.insert "metadata"
        (.object (inner.insert "resourceVersion" (.string version))))) =
      object (new.insert "metadata"
        (apply (.object oldInner) (.object (inner.insert "resourceVersion" (.string version))))) := by
        rw [applyMembers_insert hascOld hpatch _ (by simp), hwhole, hget, Option.getD_some]
    _ = object (new.insert "metadata"
        (.object (newInner.insert "resourceVersion" (.string version)))) := by
        rw [apply_object]
        change object (new.insert "metadata" (.object (applyMembers oldInner
          (inner.insert "resourceVersion" (.string version))))) = _
        rw [applyMembers_insert hascOldInner hinner _ (by simp), hinside]
        rfl
    _ = (updated.withVersion version).toJson := Option.some.inj hwritten

/--
A conditional patch is an object that leads from one pod to the other. If the first has a
version, the patch carries it, whatever else it says, and leads to the other pod with that
version; the version can be written into the difference as it is.
-/
theorem patchTo_leads (base updated : Pod) :
    (∃ patch, base.patchTo updated = .object patch) ∧
      match base.metadata.resourceVersion with
      | none => apply base.toJson (base.patchTo updated) = updated.toJson
      | some version =>
          (diff base.toJson updated.toJson).assign? versionPath (.string version) =
              some (base.patchTo updated) ∧
            (base.patchTo updated).at? versionPath = some (.string version) ∧
            apply base.toJson (base.patchTo updated) = (updated.withVersion version).toJson := by
  obtain ⟨patch, inner, hdiff, -, -, hof, -⟩ := diff_toJson base updated
  rw [patchTo]
  cases base.metadata.resourceVersion with
  | none =>
      exact ⟨⟨patch, hdiff⟩, apply_diff_of_plain base.plain_toJson updated.plain_toJson⟩
  | some version =>
      have hassign := assign?_resourceVersion_object version hof
      rw [← hdiff] at hassign
      refine ⟨⟨_, hdiff ▸ pinVersion_object version hof⟩, hassign, ?_, ?_⟩
      · exact at?_of_assign? hassign
      · exact apply_pinVersion_diff base updated version

end RunnerRelease.Pod
