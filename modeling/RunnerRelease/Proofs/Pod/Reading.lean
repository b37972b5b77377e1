import RunnerRelease.Proofs.Json.Reading
import RunnerRelease.Proofs.Pod.Json

/-!
# Pods as they are read

A pod that was read from a text agrees with the value of the text in the annotations and
in the version, whatever else the text holds: other fields, repeated members, nulls.
-/

namespace RunnerRelease

open Json Document

theorem toJson?_of_string? {doc : Document} {s : String} (h : doc.string? = some s) :
    doc.toJson? = some (.string s) := by
  cases doc with
  | string text =>
      change text = some s at h
      rw [h]
      rfl
  | _ => cases h

/-- Nothing is read from an optional field that is null or not given, and else the field is read. -/
theorem optional_eq_some_of_rel {α : Type} {read : Document → Option α} {field : Option Document}
    {v : Option Json} {result : Option α}
    (hfield : Option.Rel (fun doc v => doc.toJson? = some v) field v)
    (h : optional read field = some result) :
    (result = none ∧ v.getD .null = .null) ∨
      ∃ doc value a, v = some value ∧ doc.toJson? = some value ∧ read doc = some a ∧
        result = some a := by
  rcases optional_eq_some h with ⟨rfl, rfl | rfl⟩ | ⟨doc, a, rfl, -, hread, rfl⟩
  · cases hfield
    exact .inl ⟨rfl, rfl⟩
  · cases hfield with
    | some hnull =>
        cases hnull
        exact .inl ⟨rfl, rfl⟩
  · cases hfield with
    | some hvalue => exact .inr ⟨doc, _, a, rfl, hvalue, hread, rfl⟩

/-- A text that was read from an optional field is the value of the field. -/
theorem eq_some_iff_of_optional_string? {field : Option Document} {v : Option Json}
    {result : Option String} (hfield : Option.Rel (fun doc v => doc.toJson? = some v) field v)
    (h : optional string? field = some result) (s : String) :
    result = some s ↔ v = some (.string s) := by
  rcases optional_eq_some_of_rel hfield h with ⟨rfl, hnull⟩ | ⟨doc, value, text, rfl, hv, hread, rfl⟩
  · refine iff_of_false nofun ?_
    rintro rfl
    cases hnull
  · rw [toJson?_of_string? hread] at hv
    cases hv
    simp

/-- A map of texts binds a key to what the value binds it to. -/
theorem StringMap.get?_of_ofDocument? {d : Document} {value : Json} {m : StringMap}
    (hvalue : d.toJson? = some value) (h : StringMap.ofDocument? d = some m) (key : String) :
    value.get? key = (m.get? key).map .string := by
  obtain ⟨ms, hms, hread⟩ := Option.bind_eq_some_iff.1 h
  obtain ⟨entries, hentries, rfl⟩ := Option.map_eq_some_iff.1 hread
  obtain ⟨vs, rfl, hall⟩ := toJson?_of_members? hvalue hms
  have hvs : vs = entries.map fun e => (e.1, Json.string e.2) := by
    have hitems := forall₂_of_mapM_eq_some hentries
    clear h hread hvalue hms hentries
    induction hitems generalizing vs with
    | nil =>
        cases hall
        rfl
    | @cons doc entry docs entries hhead _ ih =>
        obtain ⟨v, vs, hv, hrest, rfl⟩ := List.forall₂_cons_left_iff.1 hall
        obtain ⟨text, htext, rfl⟩ := Option.map_eq_some_iff.1 hhead
        have hsame := toJson?_of_string? htext
        rw [hv.2] at hsame
        have hhead : v = (doc.1, Json.string text) := Prod.ext hv.1.symm (Option.some.inj hsame)
        rw [List.map_cons, ← ih vs hrest, hhead]
  rw [get?_object, StringMap.get?, StringMap.ofList, Members.get?_ofList, Members.get?_ofList,
    hvs, ← List.map_reverse, Members.get?_map]

/-- An optional map binds the keys that its field binds, and nothing there excludes another. -/
theorem StringMap.agrees_of_optional {field : Option Document} {v : Option Json}
    {map : Option StringMap} (hfield : Option.Rel (fun doc v => doc.toJson? = some v) field v)
    (h : optional StringMap.ofDocument? field = some map) :
    (∀ key, (v.getD .null).at? [key] = (map.bind fun m => m.get? key).map .string) ∧
      ∀ key written, ∃ result, (v.getD .null).assign? [key] written = some result := by
  rcases optional_eq_some_of_rel hfield h with ⟨rfl, hnull⟩ | ⟨doc, value, m, rfl, hv, hread, rfl⟩
  · -- null holds no key and takes every one
    rw [hnull]
    exact ⟨fun _ => rfl, fun _ _ => ⟨_, rfl⟩⟩
  · constructor
    · intro key
      rw [Option.getD_some, at?_cons, StringMap.get?_of_ofDocument? hv hread, Option.bind_some]
      cases m.get? key <;> simp
    · intro key written
      obtain ⟨docs, hdocs, -⟩ := Option.bind_eq_some_iff.1 hread
      obtain ⟨us, rfl, -⟩ := toJson?_of_members? hv hdocs
      exact ⟨_, rfl⟩

namespace Metadata

/-- What metadata has in common with the JSON value that it was read from. -/
structure AgreesWith (m : Metadata) (value : Json) : Prop where
  annotation : ∀ key, value.at? ["annotations", key] =
    (m.annotations.bind fun annotations => annotations.get? key).map .string
  version : ∀ version, m.resourceVersion = some version ↔
    value.at? ["resourceVersion"] = some (.string version)
  /-- Nothing in the value stands in the way of another annotation. -/
  writable : ∀ key written, ∃ result, value.assign? ["annotations", key] written = some result

theorem agreesWith_null : AgreesWith {} .null where
  annotation _ := rfl
  version _ := by simp
  writable _ _ := ⟨_, rfl⟩

/-- Metadata agrees with the value that it was read from. -/
theorem agreesWith_of_ofDocument? {d : Document} {value : Json} {m : Metadata}
    (hvalue : d.toJson? = some value) (h : Metadata.ofDocument? d = some m) :
    m.AgreesWith value := by
  rw [Metadata.ofDocument?] at h
  simp only [Option.bind_eq_bind, Option.bind_eq_some_iff] at h
  obtain ⟨fields, hfields, h⟩ := h
  have hall := get?_of_fields? hvalue hfields
  obtain ⟨documents, hdocuments, -⟩ := Option.bind_eq_some_iff.1 hfields
  obtain ⟨vs, rfl, -⟩ := toJson?_of_members? hvalue hdocuments
  split at h
  · simp only [Option.bind_eq_some_iff] at h
    obtain ⟨annotations, hannotations, _, -, _, -, _, -, _, -, _, -, version, hversion, _, -,
      hm⟩ := h
    cases hm
    simp only [List.forall₂_cons] at hall
    obtain ⟨hrel, -, -, -, -, -, hrel', -⟩ := hall
    rw [get?_object] at hrel
    obtain ⟨hkeys, hwrites⟩ := StringMap.agrees_of_optional hrel hannotations
    refine ⟨fun key => ?_, fun v => ?_, fun key written => ?_⟩
    · rw [at?_object_cons_cons]
      exact hkeys key
    · rw [eq_some_iff_of_optional_string? hrel' hversion v, at?_cons]
      cases (object (Members.ofList vs)).get? "resourceVersion" <;> simp
    · obtain ⟨result, hresult⟩ := hwrites key written
      rw [assign?_object_cons, hresult]
      exact ⟨_, rfl⟩
  · cases h

end Metadata

namespace Pod

/-- The pod is what a reader makes of some text that denotes the value. -/
def ReadFrom (pod : Pod) (value : Json) : Prop :=
  ∃ d : Document, d.toJson? = some value ∧ Pod.ofDocument? d = some pod

/-- A pod agrees in its metadata with what the value that it was read from has there. -/
theorem ReadFrom.agreesWith {pod : Pod} {value : Json} (h : pod.ReadFrom value) :
    ∃ ms : Members Json, value = .object ms ∧
      pod.metadata.AgreesWith ((ms.get? "metadata").getD .null) := by
  obtain ⟨d, hvalue, h⟩ := h
  rw [Pod.ofDocument?] at h
  simp only [Option.bind_eq_bind, Option.bind_eq_some_iff] at h
  obtain ⟨fields, hfields, h⟩ := h
  have hall := get?_of_fields? hvalue hfields
  obtain ⟨documents, hdocuments, -⟩ := Option.bind_eq_some_iff.1 hfields
  obtain ⟨vs, rfl, -⟩ := toJson?_of_members? hvalue hdocuments
  refine ⟨_, rfl, ?_⟩
  split at h
  · simp only [Option.bind_eq_some_iff] at h
    obtain ⟨_, -, _, -, h⟩ := h
    split at h
    · simp only [Option.bind_eq_some_iff] at h
      obtain ⟨metadata, hmetadata, _, -, _, -, hpod⟩ := h
      cases hpod
      simp only [List.forall₂_cons, get?_object] at hall
      obtain ⟨-, -, hrel, -⟩ := hall
      generalize (Members.ofList vs).get? "metadata" = v at hrel
      rcases optional_eq_some_of_rel hrel hmetadata with
        ⟨rfl, hnull⟩ | ⟨doc, value, found, rfl, hv, hread, rfl⟩
      · rw [hnull]
        exact Metadata.agreesWith_null
      · exact Metadata.agreesWith_of_ofDocument? hv hread
    · cases h
  · cases h

theorem ReadFrom.at?_annotation {pod : Pod} {value : Json} (h : pod.ReadFrom value)
    (key : String) : value.at? (annotationPath key) = (pod.annotated key).map .string := by
  obtain ⟨ms, rfl, hagrees⟩ := h.agreesWith
  rw [annotationPath, at?_object_cons_cons, hagrees.annotation]
  rfl

theorem ReadFrom.isSome_at?_annotation {pod : Pod} {value : Json} (h : pod.ReadFrom value)
    (key : String) : (value.at? (annotationPath key)).isSome ↔ (pod.annotated key).isSome := by
  rw [h.at?_annotation, Option.isSome_map]

theorem ReadFrom.resourceVersion_eq_some_iff {pod : Pod} {value : Json} (h : pod.ReadFrom value)
    (version : String) :
    pod.metadata.resourceVersion = some version ↔
      value.at? versionPath = some (.string version) := by
  obtain ⟨ms, rfl, hagrees⟩ := h.agreesWith
  rw [versionPath, at?_object_cons_cons, hagrees.version]

/-- A value that a pod was read from can be given an annotation. -/
theorem ReadFrom.exists_assign?_annotation {pod : Pod} {value : Json} (h : pod.ReadFrom value)
    (key : String) (written : Json) :
    ∃ result, value.assign? (annotationPath key) written = some result := by
  obtain ⟨ms, rfl, hagrees⟩ := h.agreesWith
  obtain ⟨result, hresult⟩ := hagrees.writable key written
  rw [annotationPath, assign?_object_cons, hresult]
  exact ⟨_, rfl⟩

end Pod

end RunnerRelease
