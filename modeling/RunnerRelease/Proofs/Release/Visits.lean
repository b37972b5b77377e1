import RunnerRelease.Proofs.Cluster.Basic
import RunnerRelease.Proofs.Release.Course

/-!
# Ticks one after the other

A stored pod that is visited by one tick after the other, each of which begins with the pod as
it is stored then. Patches are applied to what is stored, and other clients leave the markers
alone. The start marker is written once, and all ticks see the text that has been written.

## Implementation notes

The store is a JSON value, and only its markers are told: of everything else a patch, the
server and other clients may make what they like. The answers of the runner service are
arbitrary. A patch may be refused, and the reply to one that is applied may be lost; where a pod
is sent back, it is read from what is stored then.
-/

namespace RunnerRelease

open MergePatch Pod Procedure

/-- A patch has been applied, as far as the markers go. -/
def Applied (stored patch next : Json) : Prop :=
  ∀ key ∈ markerKeys,
    next.at? (annotationPath key) = (apply stored patch).at? (annotationPath key)

/-- What becomes of the stored pod while a tick is given some answers. -/
inductive Stores : Json → List Answered → Json → Prop
  | nil {stored : Json} : Stores stored [] stored
  /-- Another client writes the pod and leaves the markers alone. -/
  | outside {stored next last : Json} {answers : List Answered}
      (hmarkers : ∀ key ∈ markerKeys,
        next.at? (annotationPath key) = stored.at? (annotationPath key))
      (hrest : Stores next answers last) : Stores stored answers last
  /-- A patch is applied, and the pod is sent back as it is stored then. -/
  | patched {stored next last : Json} {base updated pod : Pod} {answers : List Answered}
      (happlied : Applied stored (base.patchTo updated) next) (hread : pod.ReadFrom next)
      (hrest : Stores next answers last) :
      Stores stored (⟨.patchPod base updated, .ok pod⟩ :: answers) last
  /-- A patch is applied, and the tick does not learn of it. -/
  | lost {stored next last : Json} {base updated : Pod} {answers : List Answered}
      (happlied : Applied stored (base.patchTo updated) next) (failure : Failure)
      (hrest : Stores next answers last) :
      Stores stored (⟨.patchPod base updated, .error failure⟩ :: answers) last
  /-- Nothing is stored for a call that brings no pod. -/
  | kept {stored last : Json} {a : Answered} {answers : List Answered} (hnone : a.stored? = none)
      (hrest : Stores stored answers last) : Stores stored (a :: answers) last

/-- A tick that has been taken: when, on which pod, with which answers and to which result. -/
structure Visit where
  now : Instant
  given : Pod
  answers : List Answered
  result : Except Failure TickOutcome

/-- A tick is taken on the pod as it is stored. -/
structure Visit.Takes (policy : Policy) (scope : Scope) (runner : String) (visit : Visit)
    (stored next : Json) : Prop where
  read : visit.given.ReadFrom stored
  yields : (tick policy scope runner (some visit.given) visit.now).Yields visit.answers
    visit.result
  stores : Stores stored visit.answers next

/-- Ticks are taken one after the other, with writes of other clients before and between them. -/
inductive Visits (policy : Policy) (scope : Scope) (runner : String) :
    Json → List Visit → Json → Prop
  | nil {stored : Json} : Visits policy scope runner stored [] stored
  | outside {stored next last : Json} {visits : List Visit}
      (hmarkers : ∀ key ∈ markerKeys,
        next.at? (annotationPath key) = stored.at? (annotationPath key))
      (hrest : Visits policy scope runner next visits last) :
      Visits policy scope runner stored visits last
  | cons {stored next last : Json} {visit : Visit} {visits : List Visit}
      (hvisit : visit.Takes policy scope runner stored next)
      (hrest : Visits policy scope runner next visits last) :
      Visits policy scope runner stored (visit :: visits) last

/-- The pod that is held when the runner service is asked, after the patches before that. -/
def Visit.held (visit : Visit) : Pod :=
  heldAfter visit.given (visit.answers.takeWhile fun a => a.call.isPatch)

variable {policy : Policy} {scope : Scope} {runner key text : String} {stored next last : Json}
  {answers : List Answered}

theorem startMarker_mem : startMarker ∈ markerKeys := by simp [markerKeys]

namespace Stores

/-- The answers fall into the first ones and the others, and so does what becomes of the pod. -/
theorem exists_append {first rest : List Answered} (h : Stores stored (first ++ rest) last) :
    ∃ next, Stores stored first next ∧ Stores next rest last := by
  generalize hall : first ++ rest = answers at h
  induction h generalizing first with
  | nil =>
      obtain ⟨rfl, rfl⟩ := List.append_eq_nil_iff.1 hall
      exact ⟨_, .nil, .nil⟩
  | outside hmarkers _ ih =>
      obtain ⟨next, hfirst, hrest⟩ := ih hall
      exact ⟨next, .outside hmarkers hfirst, hrest⟩
  | patched happlied hread hafter ih =>
      cases first with
      | nil =>
          obtain rfl : rest = _ := hall
          exact ⟨_, .nil, .patched happlied hread hafter⟩
      | cons a first =>
          cases hall
          obtain ⟨next, hfirst, hrest⟩ := ih rfl
          exact ⟨next, .patched happlied hread hfirst, hrest⟩
  | lost happlied failure hafter ih =>
      cases first with
      | nil =>
          obtain rfl : rest = _ := hall
          exact ⟨_, .nil, .lost happlied failure hafter⟩
      | cons a first =>
          cases hall
          obtain ⟨next, hfirst, hrest⟩ := ih rfl
          exact ⟨next, .lost happlied failure hfirst, hrest⟩
  | kept hnone hafter ih =>
      cases first with
      | nil =>
          obtain rfl : rest = _ := hall
          exact ⟨_, .nil, .kept hnone hafter⟩
      | cons a first =>
          cases hall
          obtain ⟨next, hfirst, hrest⟩ := ih rfl
          exact ⟨next, .kept hnone hfirst, hrest⟩

/-- A marker stays as it is while no patch writes it. -/
theorem at?_eq (h : Stores stored answers last) (hkey : key ∈ markerKeys)
    (hpatches : ∀ a ∈ answers, ∀ patch, a.call.patch? = some patch →
      ∃ version other text, other ≠ key ∧ patch = markerPatch version other text) :
    last.at? (annotationPath key) = stored.at? (annotationPath key) := by
  have happly {before after : Json} {base updated : Pod}
      (happlied : Applied before (base.patchTo updated) after)
      (hpatch : ∃ version other text, other ≠ key ∧
        base.patchTo updated = markerPatch version other text) :
      after.at? (annotationPath key) = before.at? (annotationPath key) := by
    obtain ⟨version, other, text, hne, heq⟩ := hpatch
    rw [happlied key hkey, heq, at?_annotation_apply_markerPatch, if_neg hne]
  induction h with
  | nil => rfl
  | outside hmarkers _ ih => rw [ih hpatches, hmarkers key hkey]
  | patched happlied _ _ ih =>
      rw [List.forall_mem_cons] at hpatches
      rw [ih hpatches.2, happly happlied (hpatches.1 _ rfl)]
  | lost happlied _ _ ih =>
      rw [List.forall_mem_cons] at hpatches
      rw [ih hpatches.2, happly happlied (hpatches.1 _ rfl)]
  | kept _ _ ih =>
      rw [List.forall_mem_cons] at hpatches
      exact ih hpatches.2

/-- The patch of a marker writes it or is not applied, and a pod that comes back has the marker. -/
theorem of_markerPatch {base updated : Pod} {version : Option String}
    {answer : Except Failure Pod} (h : Stores stored [⟨.patchPod base updated, answer⟩] last)
    (hkey : key ∈ markerKeys) (hpatch : base.patchTo updated = markerPatch version key text) :
    (last.at? (annotationPath key) = stored.at? (annotationPath key) ∨
        last.at? (annotationPath key) = some (.string text)) ∧
      ∀ pod, answer = .ok pod → pod.annotated key = some text := by
  have happly {before after : Json} (happlied : Applied before (base.patchTo updated) after) :
      after.at? (annotationPath key) = some (.string text) := by
    rw [happlied key hkey, hpatch, at?_annotation_apply_markerPatch, if_pos rfl]
  have hend {before after : Json} (hnone : Stores before [] after) :
      after.at? (annotationPath key) = before.at? (annotationPath key) :=
    hnone.at?_eq hkey (by simp)
  generalize hcalls : [(⟨.patchPod base updated, answer⟩ : Answered)] = answers at h
  induction h with
  | nil => cases hcalls
  | outside hmarkers _ ih =>
      rw [← hmarkers key hkey]
      exact ih hcalls
  | patched happlied hread hrest _ =>
      cases hcalls
      have hwritten := happly happlied
      refine ⟨.inr ((hend hrest).trans hwritten), ?_⟩
      rintro pod ⟨⟩
      rw [hread.at?_annotation] at hwritten
      simpa using hwritten
  | lost happlied failure hrest _ =>
      cases hcalls
      exact ⟨.inr ((hend hrest).trans (happly happlied)), by simp⟩
  | kept hnone hrest _ =>
      cases hcalls
      refine ⟨.inl (hend hrest), ?_⟩
      rintro pod rfl
      cases hnone

end Stores

end RunnerRelease
